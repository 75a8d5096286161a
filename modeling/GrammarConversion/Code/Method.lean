import GrammarConversion.Code.Calls

/-!
# Methods of the token manager

A grammar may declare helper methods for its lexer.  Two of them matter here: the one that enters
a lexical state and remembers the state it came from, and the one that goes back.  They are found
by their shape (`StateFunctions.ofDeclarations`): a method without a result that switches the
lexical state and pushes onto, or pops from, a stack.
-/

namespace GrammarConversion.Code

/-- A method without a result: its name and the tokens between its braces. -/
structure Method where
  name : String
  body : List Token
  deriving DecidableEq, Repr

/-- What follows the first opening brace; nothing if there is none. -/
def afterBrace : List Token → List Token
  | [] => []
  | token :: rest => if token.image = "\x7b" then rest else afterBrace rest

/-- The tokens up to the brace that closes the outermost of `depth + 1` open blocks, and those after
that brace.  An unclosed block goes on to the end. -/
def splitBlock : (depth : Nat) → List Token → List Token × List Token
  | _, [] => ([], [])
  | depth, token :: rest =>
    if token.image = "\x7d" ∧ depth = 0 then ([], rest)
    else
      let inner :=
        if token.image = "\x7b" then depth + 1
        else if token.image = "\x7d" then depth - 1
        else depth
      let split := splitBlock inner rest
      (token :: split.1, split.2)

theorem length_afterBrace_le (tokens : List Token) :
    (afterBrace tokens).length ≤ tokens.length := by
  induction tokens with
  | nil => simp [afterBrace]
  | cons token rest ih =>
    simp only [afterBrace]
    split
    · simp
    · exact Nat.le_succ_of_le ih

theorem length_splitBlock_le (depth : Nat) (tokens : List Token) :
    (splitBlock depth tokens).2.length ≤ tokens.length := by
  induction tokens generalizing depth with
  | nil => simp [splitBlock]
  | cons token rest ih =>
    simp only [splitBlock]
    split
    · simp
    · exact Nat.le_succ_of_le (ih _)

/-- The methods without a result, in order.  Methods inside the body of another are part of that
body. -/
def voidMethods : List Token → List Method
  | first :: second :: third :: rest =>
    if first.image = "void" ∧ second.kind = .identifier ∧ third.image = "(" then
      let split := splitBlock 0 (afterBrace rest)
      ⟨second.image, split.1⟩ :: voidMethods split.2
    else voidMethods (second :: third :: rest)
  | _ => []
termination_by tokens => tokens.length
decreasing_by
  · have hbody := length_splitBlock_le 0 (afterBrace rest)
    have hhead := length_afterBrace_le rest
    simp only [List.length_cons]
    omega
  · simp

/-! ## The helpers for lexical states -/

/-- The names of the helpers that push and pop a lexical state. -/
structure StateFunctions where
  push : Option String := none
  pop : Option String := none
  deriving DecidableEq, Repr

/-- What a method adds to the helpers found so far.  Each role goes to the first method that fits
it, and a method takes one role at most. -/
def StateFunctions.note (found : StateFunctions) (method : Method) : StateFunctions :=
  if !callsFunction "SwitchTo" method.body then found
  else if found.push = none ∧ callsMember "push" method.body then
    { found with push := some method.name }
  else if found.pop = none ∧ callsMember "pop" method.body then
    { found with pop := some method.name }
  else found

/-- **The helpers among the declarations of a token manager.** -/
def StateFunctions.ofDeclarations (code : String) : StateFunctions :=
  (voidMethods (tokenize code)).foldl StateFunctions.note {}

end GrammarConversion.Code
