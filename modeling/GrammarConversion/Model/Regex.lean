import GrammarConversion.Model.Foreign

/-!
# Regular expressions of token productions

The right-hand side of a token such as `< ID: ["a"-"z"] (["a"-"z","0"-"9"])* >` as a tree.  One
type holds all that may stand in the tree: the regular expressions, the descriptors inside a
character list, which are not regular expressions on their own (`isRegularExpression`), and values
that belong to no tree of this kind.
-/

namespace GrammarConversion.Model

open GrammarConversion.Text

/-- A node of the tree of a regular expression. -/
inductive Regex where
  /-- A single character of a character list. -/
  | character (char : String)
  /-- A range of a character list, both ends included. -/
  | range (left right : String)
  /-- A character list `["a"-"z", "_"]`, or the characters outside of it if it is negated. -/
  | charList (descriptors : List Regex) (negated : Option Bool)
  /-- A string literal, without its quotes and escapes. -/
  | literal (image : String)
  | sequence (units : List Regex)
  | choice (alternatives : List Regex)
  | zeroOrMore (operand : Regex)
  | oneOrMore (operand : Regex)
  | zeroOrOne (operand : Regex)
  /-- A repetition with bounds; without `max` it is open. -/
  | repetition (operand : Regex) (min max : Option Int)
  /-- A reference to another token. -/
  | reference (label : String)
  /-- The end of the input. -/
  | endOfFile
  /-- A regular expression of no known kind. -/
  | unknown
  /-- A value that is no node of this tree. -/
  | foreign (value : Foreign)

namespace Regex

def typeName : Regex → String
  | .character _ => "SingleCharacter"
  | .range _ _ => "CharacterRange"
  | .charList _ _ => "CharacterList"
  | .literal _ => "StringLiteral"
  | .sequence _ => "Sequence"
  | .choice _ => "Choice"
  | .zeroOrMore _ => "ZeroOrMore"
  | .oneOrMore _ => "OneOrMore"
  | .zeroOrOne _ => "ZeroOrOne"
  | .repetition _ _ _ => "RepetitionRange"
  | .reference _ => "JustName"
  | .endOfFile => "EndOfFile"
  | .unknown => "RegularExpression"
  | .foreign value => value.typeName

def isRegularExpression : Regex → Bool
  | .character _ => false
  | .range _ _ => false
  | .foreign _ => false
  | _ => true

/-- Whether a node describes characters of a character list. -/
def isDescriptor : Regex → Bool
  | .character _ => true
  | .range _ _ => true
  | _ => false

mutual

def printed : Regex → String
  | .character char => printedNode "SingleCharacter" [("char", quoted char)]
  | .range left right =>
    printedNode "CharacterRange" [("left", quoted left), ("right", quoted right)]
  | .charList descriptors negated =>
    printedNode "CharacterList"
      [("descriptors", bracketed (printedAll descriptors)), ("negated", Json.printedFlag negated)]
  | .literal image => printedNode "StringLiteral" [("image", quoted image)]
  | .sequence units => printedNode "Sequence" [("units", bracketed (printedAll units))]
  | .choice alternatives =>
    printedNode "Choice" [("choices", bracketed (printedAll alternatives))]
  | .zeroOrMore operand => printedNode "ZeroOrMore" [("regexpr", operand.printed)]
  | .oneOrMore operand => printedNode "OneOrMore" [("regexpr", operand.printed)]
  | .zeroOrOne operand => printedNode "ZeroOrOne" [("regexpr", operand.printed)]
  | .repetition operand min max =>
    printedNode "RepetitionRange"
      [("regexpr", operand.printed), ("min", printedInt min), ("max", printedInt max)]
  | .reference label => printedNode "JustName" [("label", quoted label)]
  | .endOfFile => printedNode "EndOfFile" []
  | .unknown => printedNode "RegularExpression" []
  | .foreign value => value.printed

def printedAll : List Regex → List String
  | [] => []
  | node :: nodes => node.printed :: printedAll nodes

end

end Regex

end GrammarConversion.Model
