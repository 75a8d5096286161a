import GrammarConversion.Text.LetterCase
import GrammarConversion.Text.Path

/-!
# Names in the generated grammars

Names of the source grammar are kept wherever the target allows them.  A rule name must not begin
with an underscore, a parser rule begins with a small letter, and the default lexical state has a
reserved name as a mode.
-/

namespace GrammarConversion.Antlr

open GrammarConversion.Text

/-- The lexical state in which a lexer starts. -/
def defaultState : String := "DEFAULT"

/-- The mode in which a generated lexer starts. -/
def defaultMode : String := "DEFAULT_MODE"

/-- What stands before a name that begins with an underscore. -/
def reservedStem : String := "US_"

/-- The name of the rule for a token. -/
def ruleName (name : String) : String :=
  if name.toList.head? = some '_' then reservedStem ++ name else name

def parserRuleName (name : String) : String :=
  match name.toList with
  | [] => name
  | c :: cs => if isUppercase c then String.ofList (lowerChar c ++ cs) else name

def modeName (state : String) : String :=
  if state = defaultState then defaultMode else state

def capitalized (s : String) : String :=
  match s.toList with
  | [] => s
  | c :: cs => String.ofList (upperChar c ++ cs)

/-- The base name of the grammars generated from the file at `path`. -/
def grammarName (path : String) : String :=
  capitalized (pathStem path)

end GrammarConversion.Antlr
