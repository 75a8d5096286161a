import GrammarConversion.Antlr.Literal
import GrammarConversion.Antlr.Name
import GrammarConversion.Failure
import GrammarConversion.Model.Regex

/-!
# Bodies of lexer rules

A regular expression of a token production becomes the body of a lexer rule.  Sequences are written
without parentheses, since they bind more tightly than alternatives; alternatives and the operands
of repetitions are always parenthesised.

**Checks come first.**  The parts of a node are all checked before the first of them is converted,
so a part that does not belong is reported before any fault inside its neighbours.

**Case.**  A token says whether case matters.  A regular expression that stands in the place of an
expansion belongs to no token, so nothing whose form depends on case can be converted there.
-/

namespace GrammarConversion.Conversion

open GrammarConversion.Antlr
open GrammarConversion.Model

/-- How a regular expression is converted, and the rule it belongs to if that is known. -/
structure RegexContext where
  /-- Whether case does not matter, if the expression belongs to a token. -/
  ignoreCase : Option Bool := some false
  rule : Option String := none

/-- Whether case does not matter; it has to be known. -/
def RegexContext.caseIgnored (context : RegexContext) : Except Failure Bool :=
  match context.ignoreCase with
  | some ignoreCase => .ok ignoreCase
  | none => .error .strayValue

/-- A defect of a node of the type `kind`. -/
def RegexContext.malformed (context : RegexContext) (kind : String) (defect : Defect) : Failure :=
  .conversion (.malformed kind defect context.rule)

/-- A descriptor for a character.  Where case does not matter a letter stands for both its forms. -/
def characterText (ignoreCase : Bool) (char : String) : String :=
  escape .charSet
    (if ignoreCase && liesAmongLetters char then Text.lower char ++ Text.upper char else char)

/-- The range between the same letters in the other case, if both ends are letters of one case. -/
def otherCaseRange (left right : Char) : String :=
  if left.isLower && right.isLower then
    String.ofList [left.toUpper, '-', right.toUpper]
  else if left.isUpper && right.isUpper then
    String.ofList [left.toLower, '-', right.toLower]
  else ""

/-- A descriptor for a range of characters, whose ends are looked at before the case. -/
def rangeText (context : RegexContext) (left right : String) : Except Failure String :=
  match left.toList, right.toList with
  | [first], [last] => do
    let ignoreCase ← context.caseIgnored
    .ok (String.ofList (escapeChar .charSet first ++ '-' :: escapeChar .charSet last)
      ++ if ignoreCase then otherCaseRange first last else "")
  | _, _ => .error .notOneCharacter

/-- Refuses parts that are no regular expressions; the first of them is reported. -/
def checkUnits (context : RegexContext) (kind : String) (units : List Regex) :
    Except Failure Unit :=
  match units.find? fun unit => !unit.isRegularExpression with
  | none => .ok ()
  | some unit => .error (context.malformed kind (.notRegularExpression unit.typeName))

/-- Refuses parts of a character list that describe no characters. -/
def checkDescriptors (context : RegexContext) (descriptors : List Regex) : Except Failure Unit :=
  match descriptors.find? fun descriptor => !descriptor.isDescriptor with
  | none => .ok ()
  | some descriptor =>
    .error (context.malformed "CharacterList" (.notDescriptor descriptor.typeName))

/-- The set of characters with the given descriptors, or its complement. -/
def setText (negated : Bool) (descriptors : List String) : String :=
  (if negated then "~[" else "[") ++ String.join descriptors ++ "]"

mutual

/-- **The body of the rule for a regular expression.**  The empty set cannot be written, but the
characters outside of it can: any character is. -/
def lexerBody (context : RegexContext) : Regex → Except Failure String
  | .character char => do
    let ignoreCase ← context.caseIgnored
    .ok (characterText ignoreCase char)
  | .range left right => rangeText context left right
  | .charList descriptors negated =>
    if negated.getD false && descriptors.isEmpty then .ok "."
    else do
      checkDescriptors context descriptors
      let texts ← lexerBodies context descriptors
      .ok (setText (negated.getD false) texts)
  | .literal image =>
    if image = "" then .error (context.malformed "StringLiteral" .emptyLiteral)
    else do
      let ignoreCase ← context.caseIgnored
      .ok (literalBody ignoreCase image)
  | .sequence units => do
    checkUnits context "Sequence" units
    let texts ← lexerBodies context units
    .ok (" ".intercalate texts)
  | .choice alternatives => do
    checkUnits context "Choice" alternatives
    let texts ← lexerBodies context alternatives
    .ok ("(" ++ " | ".intercalate texts ++ ")")
  | .zeroOrMore operand => do
    checkUnits context "ZeroOrMore" [operand]
    let text ← lexerBody context operand
    .ok ("(" ++ text ++ ")*")
  | .oneOrMore operand => do
    checkUnits context "OneOrMore" [operand]
    let text ← lexerBody context operand
    .ok ("(" ++ text ++ ")+")
  | .zeroOrOne operand => do
    checkUnits context "ZeroOrOne" [operand]
    let text ← lexerBody context operand
    .ok ("(" ++ text ++ ")?")
  | .repetition _ _ _ => .error (.conversion (.unsupported "RepetitionRange" context.rule))
  | .reference label => .ok (ruleName label)
  | .endOfFile => .error (.conversion (.unsupported "EndOfFile" context.rule))
  | .unknown => .error (.conversion (.unsupported "RegularExpression" context.rule))
  | .foreign _ => .error .strayValue

def lexerBodies (context : RegexContext) : List Regex → Except Failure (List String)
  | [] => .ok []
  | unit :: units => do
    let text ← lexerBody context unit
    let texts ← lexerBodies context units
    .ok (text :: texts)

end

end GrammarConversion.Conversion
