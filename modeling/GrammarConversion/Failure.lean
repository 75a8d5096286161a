/-!
# Failures of a conversion

A conversion gives a result or one failure, never a part of a result.  Most failures are conversion
errors: they say what is wrong with the grammar and, where it is known, in which rule.  The
others are faults of the model itself, which no grammar that a front end builds has.
-/

namespace GrammarConversion

inductive Defect where
  /-- A part is no regular expression but a value of the given type. -/
  | notRegularExpression (type : String)
  /-- A part of a character list describes no characters. -/
  | notDescriptor (type : String)
  /-- A part is no expansion. -/
  | notExpansion (type : String)
  /-- A literal has no characters. -/
  | emptyLiteral
  /-- A choice has less than two alternatives. -/
  | tooFewAlternatives (count : Nat)
  deriving DecidableEq, Repr

def Defect.message : Defect → String
  | .notRegularExpression type => "element is not a regular expression: " ++ type
  | .notDescriptor type => "element is not a character descriptor: " ++ type
  | .notExpansion type => "element is not an expansion: " ++ type
  | .emptyLiteral => "empty literal"
  | .tooFewAlternatives count => "needs at least two alternatives, got " ++ toString count

/-- What came of a run of the external grammar compiler that failed. -/
inductive CompilerFault where
  /-- The compiler is not there. -/
  | missing
  /-- The compiler does not accept the grammars. -/
  | rejected
  deriving DecidableEq, Repr

def CompilerFault.message : CompilerFault → String
  | .missing => "antlr4 tool not found"
  | .rejected => "ANTLR rejected the generated grammars"

/-- An error of a conversion. -/
inductive ConversionError where
  /-- A construct has no counterpart. -/
  | unsupported (kind : String) (rule : Option String)
  /-- A node of a tree is not formed as it should be. -/
  | malformed (kind : String) (defect : Defect) (rule : Option String)
  /-- No token matches a literal of a production. -/
  | unresolvedLiteral (literal : String) (rule : Option String)
  /-- Two different rules want one name.  A rule that has nothing for its body counts as one
  without a body, and an existing rule without a body is taken for that of a letter. -/
  | namingConflict (name : String) (body existing : Option String)
  /-- The external grammar compiler failed. -/
  | compiler (fault : CompilerFault) (output : String)
  deriving DecidableEq, Repr

namespace ConversionError

/-- The rule in which an error was met, if it is known. -/
def rule : ConversionError → Option String
  | .unsupported _ rule => rule
  | .malformed _ _ rule => rule
  | .unresolvedLiteral _ rule => rule
  | .namingConflict _ _ _ => none
  | .compiler _ _ => none

def cause : ConversionError → String
  | .unsupported kind _ => "unsupported construct: " ++ kind
  | .malformed kind defect _ => "malformed " ++ kind ++ ": " ++ defect.message
  | .unresolvedLiteral literal _ => "no lexer rule matches literal \"" ++ literal ++ "\""
  | .namingConflict name body none =>
    "rule " ++ name ++ " : " ++ body.getD "None"
      ++ " conflicts with the generated case-insensitive fragment " ++ name
  | .namingConflict name body (some existing) =>
    "rule " ++ name ++ " : " ++ body.getD "None" ++ " conflicts with rule " ++ name ++ " : "
      ++ existing
  | .compiler fault output =>
    if output = "" then fault.message else fault.message ++ "\n" ++ output

/-- **The message of an error.** -/
def message (error : ConversionError) : String :=
  match error.rule with
  | none => error.cause
  | some rule => error.cause ++ " (in rule " ++ rule ++ ")"

end ConversionError

/-- Why an operation has no result. -/
inductive Failure where
  /-- The grammar cannot be converted. -/
  | conversion (error : ConversionError)
  /-- An end of a range is not exactly one character. -/
  | notOneCharacter
  /-- A value stands in the place of a tree, or a tree in the place of one of the other kind. -/
  | strayValue
  /-- A rule has no name, and there is nothing to name it with. -/
  | unnamedRule (body : String)
  /-- A part of a rule body has no written form. -/
  | unwritable
  /-- The body of a lexer rule is no text. -/
  | notText
  deriving DecidableEq, Repr

def unnamedRuleMessage (body : String) : String :=
  "anonymous rule " ++ body ++ " needs a name factory"

end GrammarConversion
