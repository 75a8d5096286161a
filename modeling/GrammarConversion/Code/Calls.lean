import GrammarConversion.Code.Token

/-!
# Calls in embedded code

A call is recognised by its shape alone: a name followed by an opening parenthesis.  Conditions
and loops around it are not looked at.
-/

namespace GrammarConversion.Code

/-- Whether the code after a name opens a list of arguments. -/
def opensArguments : List Token → Bool
  | [] => false
  | token :: _ => token.image == "("

/-- The calls of rules called one of `names` among tokens that follow a token with the image
`before`.  A name after `new` makes an object and calls nothing. -/
def ruleCallsAfter (names : List String) (before : Option String) : List Token → List String
  | [] => []
  | token :: rest =>
    let later := ruleCallsAfter names (some token.image) rest
    if token.kind = .identifier ∧ token.image ∈ names ∧ opensArguments rest ∧ before ≠ some "new"
    then token.image :: later
    else later

/-- **The rules that some code calls,** in the order of the calls. -/
def ruleCalls (names : List String) (tokens : List Token) : List String :=
  ruleCallsAfter names none tokens

def callsFunction (name : String) : List Token → Bool
  | [] => false
  | token :: rest => (token.image == name && opensArguments rest) || callsFunction name rest

def callsMember (name : String) : List Token → Bool
  | [] => false
  | token :: rest =>
    (token.image == "." &&
      match rest with
      | [] => false
      | next :: more => next.image == name && opensArguments more)
    || callsMember name rest

end GrammarConversion.Code
