import GrammarConversion.Antlr.ParserGrammar
import GrammarConversion.Text.Search

/-!
# The external grammar compiler

A pair of grammars is checked by an external compiler, which reads them as files and builds a
recognizer.  Here stand what it is called with and what its answer means; the call itself is made
elsewhere, if the compiler is there.
-/

namespace GrammarConversion

open GrammarConversion.Antlr
open GrammarConversion.Text

namespace Compiler

def version : String := "4.13.1"

def fileName (grammar : String) : String :=
  grammar ++ ".g4"

/-- The words that the compiler is called with, in the directory of the files. -/
def command (pair : GrammarPair) : List String :=
  ["antlr4", "-v", version, "-Dlanguage=Python3", pathName (fileName pair.lexer.name),
   pathName (fileName pair.parser.name)]

/-- What a run of the compiler leaves: its exit status and what it has written. -/
structure Run where
  status : Int
  output : String
  errors : String
  deriving DecidableEq, Repr

/-- What the compiler has to say. -/
def Run.text (run : Run) : String :=
  trimmed (run.output ++ run.errors)

/-- Whether the compiler accepts the grammars. -/
def Run.accepts (run : Run) : Bool :=
  run.status == 0 && !occursIn "error(".toList run.text.toList

def callNote (pair : GrammarPair) : LogRecord :=
  ⟨.info, "toolchain", "running " ++ " ".intercalate (command pair)⟩

def answerLog (run : Option Run) : List LogRecord :=
  match run with
  | none => []
  | some run =>
    if run.accepts && run.text ≠ "" then
      [⟨.warning, "toolchain", "ANTLR output:\n" ++ run.text⟩]
    else []

/-- **What comes of a run,** or of no run if the compiler is not there. -/
def verdict : Option Run → Except ConversionError Unit
  | none => .error (.compiler .missing "")
  | some run => if run.accepts then .ok () else .error (.compiler .rejected run.text)

/-- A fault that a recognizer meets in its input. -/
structure SyntaxFault where
  source : String := "<input>"
  line : Int
  column : Int
  message : String

def SyntaxFault.text (fault : SyntaxFault) : String :=
  "Syntax error in " ++ fault.source ++ ", line " ++ toString fault.line ++ ", column "
    ++ toString fault.column ++ ": " ++ fault.message

end Compiler

end GrammarConversion
