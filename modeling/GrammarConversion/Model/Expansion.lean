import GrammarConversion.Code.Token
import GrammarConversion.Model.Foreign

/-!
# Expansions of BNF productions

All that stands between the braces of a production `void Foo() : {} { ... }` as a tree.
-/

namespace GrammarConversion.Model

open GrammarConversion.Text

/-- A node of the tree of an expansion. -/
inductive Expansion where
  | sequence (units : List Expansion)
  | choice (alternatives : List Expansion)
  /-- How far a parser has to look ahead here. -/
  | lookahead (amount : Option Int)
  /-- Embedded code. -/
  | action (tokens : List Code.Token)
  /-- A call of another production. -/
  | nonTerminal (name : String)
  | zeroOrOne (operand : Expansion)
  | zeroOrMore (operand : Expansion)
  | oneOrMore (operand : Expansion)
  /-- An expansion guarded by handlers of exceptions. -/
  | tryBlock (operand : Expansion)
  /-- A literal token, without its quotes and escapes. -/
  | literal (image : String)
  /-- A reference to a named token. -/
  | reference (label : String)
  /-- The end of the input. -/
  | endOfFile
  /-- An expansion of no known kind. -/
  | unknown
  /-- A value that is no node of this tree. -/
  | foreign (value : Foreign)

namespace Expansion

def typeName : Expansion → String
  | .sequence _ => "Sequence"
  | .choice _ => "Choice"
  | .lookahead _ => "Lookahead"
  | .action _ => "Action"
  | .nonTerminal _ => "NonTerminal"
  | .zeroOrOne _ => "ZeroOrOne"
  | .zeroOrMore _ => "ZeroOrMore"
  | .oneOrMore _ => "OneOrMore"
  | .tryBlock _ => "TryBlock"
  | .literal _ => "StringLiteral"
  | .reference _ => "JustName"
  | .endOfFile => "EndOfFile"
  | .unknown => "Expansion"
  | .foreign value => value.typeName

def isExpansion : Expansion → Bool
  | .foreign _ => false
  | _ => true

def printedToken (token : Code.Token) : String :=
  "ActionToken(kind=<TokenKind." ++ token.kind.name ++ ": '" ++ token.kind.name ++ "'>, image="
    ++ quoted token.image ++ ")"

mutual

def printed : Expansion → String
  | .sequence units => printedNode "Sequence" [("units", bracketed (printedAll units))]
  | .choice alternatives =>
    printedNode "Choice" [("choices", bracketed (printedAll alternatives))]
  | .lookahead amount => printedNode "Lookahead" [("amount", printedInt amount)]
  | .action tokens =>
    printedNode "Action" [("tokens", bracketed (tokens.map printedToken))]
  | .nonTerminal name => printedNode "NonTerminal" [("name", quoted name)]
  | .zeroOrOne operand => printedNode "ZeroOrOne" [("expansion", operand.printed)]
  | .zeroOrMore operand => printedNode "ZeroOrMore" [("expansion", operand.printed)]
  | .oneOrMore operand => printedNode "OneOrMore" [("expansion", operand.printed)]
  | .tryBlock operand => printedNode "TryBlock" [("expansion", operand.printed)]
  | .literal image => printedNode "StringLiteral" [("image", quoted image)]
  | .reference label => printedNode "JustName" [("label", quoted label)]
  | .endOfFile => printedNode "EndOfFile" []
  | .unknown => printedNode "Expansion" []
  | .foreign value => value.printed

def printedAll : List Expansion → List String
  | [] => []
  | node :: nodes => node.printed :: printedAll nodes

end

end Expansion

end GrammarConversion.Model
