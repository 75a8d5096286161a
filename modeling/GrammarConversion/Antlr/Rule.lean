import GrammarConversion.Antlr.Body

/-!
# Rules of a grammar document

A rule has a name and a body.  A rule of a lexer may also have commands, which run when it has
matched, and it may be a fragment, which is matched only as a part of other rules.
-/

namespace GrammarConversion.Antlr

/-- What a lexer does when a rule has matched. -/
inductive Command where
  /-- Send the token to the channel that the parser does not read. -/
  | hide
  /-- Go on with the same token. -/
  | more
  /-- Drop the matched text. -/
  | skip
  /-- Give the token the type of another rule. -/
  | type (rule : String)
  /-- Go to a mode. -/
  | mode (target : String)
  /-- Go to a mode and remember the present one. -/
  | pushMode (target : String)
  /-- Go back to the mode remembered last. -/
  | popMode
  /-- A command as it is written. -/
  | verbatim (text : String)
  deriving DecidableEq, Repr

def Command.text : Command → String
  | .hide => "channel(HIDDEN)"
  | .more => "more"
  | .skip => "skip"
  | .type rule => "type(" ++ rule ++ ")"
  | .mode target => "mode(" ++ target ++ ")"
  | .pushMode target => "pushMode(" ++ target ++ ")"
  | .popMode => "popMode"
  | .verbatim text => text

structure Rule where
  name : String
  body : Body
  commands : List Command := []
  isFragment : Bool := false
  deriving DecidableEq, Repr

/-- The words of a rule, which single spaces part.  An empty body and an empty list of commands
leave nothing behind. -/
def Rule.words (rule : Rule) : List String :=
  [if rule.isFragment then "fragment " ++ rule.name else rule.name, ":"]
    ++ (if rule.body.written = "" then [] else [rule.body.written])
    ++ (if rule.commands = [] then []
        else ["-> " ++ ", ".intercalate (rule.commands.map Command.text)])
    ++ [";"]

/-- **The line of a rule.** -/
def Rule.text (rule : Rule) : String :=
  " ".intercalate rule.words

/-- Whether a rule may stand in a grammar document, which takes texts only. -/
def Rule.isWritable (rule : Rule) : Bool :=
  !rule.body.isParserPart

end GrammarConversion.Antlr
