import GrammarConversion.Antlr.Component
import GrammarConversion.Antlr.LexerGrammar
import GrammarConversion.Code.Calls
import GrammarConversion.Model.Expansion

/-!
# Bodies of parser rules

An expansion of a BNF production becomes a part of a parser rule, or nothing.  Nothing comes of a
lookahead, of an action that calls no production, and of a call of what is no BNF production: they
match the empty input.  Sequences drop such parts.  A choice that lost an alternative becomes
optional, since the lost one matched the empty input.

**Checks and conversions alternate.**  Each part of a node is checked and converted before the
next one is looked at, also inside parts that are dropped in the end.

**Scope.**  Literals and calls mean something among the productions of a grammar.  An expansion
that stands in the place of a regular expression has no such scope, so neither can be converted
there, nor can an action.
-/

namespace GrammarConversion.Conversion

open GrammarConversion.Antlr
open GrammarConversion.Model

/-- What the names in an expansion refer to: the finished lexer, in which literals are looked up,
and the names of all BNF productions. -/
structure Scope where
  lexer : LexerGrammar
  productions : List String

/-- What an expansion is converted with: its scope, if it belongs to a BNF production, and the rule
it belongs to if that is known. -/
structure ExpansionContext where
  scope : Option Scope
  rule : Option String := none

/-- The scope of an expansion; it has to be known. -/
def ExpansionContext.knownScope (context : ExpansionContext) : Except Failure Scope :=
  match context.scope with
  | some scope => .ok scope
  | none => .error .strayValue

/-- A defect of a node of the type `kind`. -/
def ExpansionContext.malformed (context : ExpansionContext) (kind : String) (defect : Defect) :
    Failure :=
  .conversion (.malformed kind defect context.rule)

def nameElement (name : String) : Component :=
  .element name none

def joined : List Component → Option Component
  | [] => none
  | [child] => some child
  | children => some (.sequence children none)

/-- The part for the alternatives that are left of `count` alternatives. -/
def alternatives (count : Nat) (branches : List Component) : Option Component :=
  let quantifier := if branches.length < count then some Quantifier.zeroOrOne else none
  match branches with
  | [] => none
  | [branch] => some (branch.quantified quantifier)
  | branches => some (.choice branches quantifier)

def actionCalls (scope : Scope) (tokens : List Code.Token) : List String :=
  Code.ruleCalls scope.productions tokens

mutual

/-- **The part of a parser rule for an expansion.** -/
def parserBody (context : ExpansionContext) : Expansion → Except Failure (Option Component)
  | .sequence units => do
    let children ← parserBodies context "Sequence" units
    .ok (joined children)
  | .choice branches =>
    if branches.length < 2 then
      .error (context.malformed "Choice" (.tooFewAlternatives branches.length))
    else do
      let children ← parserBodies context "Choice" branches
      .ok (alternatives branches.length children)
  | .lookahead _ => .ok none
  | .action tokens => do
    let scope ← context.knownScope
    .ok (joined ((actionCalls scope tokens).map fun name => nameElement (parserRuleName name)))
  | .nonTerminal name => do
    let scope ← context.knownScope
    if name ∈ scope.productions then .ok (some (nameElement (parserRuleName name)))
    else .ok none
  | .zeroOrOne operand => do
    let inner ← operandBody context "ZeroOrOne" operand
    .ok (inner.map fun part => part.quantified (some .zeroOrOne))
  | .zeroOrMore operand => do
    let inner ← operandBody context "ZeroOrMore" operand
    .ok (inner.map fun part => part.quantified (some .zeroOrMore))
  | .oneOrMore operand => do
    let inner ← operandBody context "OneOrMore" operand
    .ok (inner.map fun part => part.quantified (some .oneOrMore))
  | .tryBlock operand => operandBody context "TryBlock" operand
  | .literal image => do
    let scope ← context.knownScope
    match scope.lexer.ruleForImage? image with
    | some rule => .ok (some (nameElement rule.name))
    | none => .error (.conversion (.unresolvedLiteral image context.rule))
  | .reference label => .ok (some (nameElement (ruleName label)))
  | .endOfFile => .ok (some (nameElement "EOF"))
  | .unknown => .error (.conversion (.unsupported "Expansion" context.rule))
  | .foreign _ => .error .strayValue

/-- The part for the operand of a node of the type `kind`. -/
def operandBody (context : ExpansionContext) (kind : String) (operand : Expansion) :
    Except Failure (Option Component) :=
  if operand.isExpansion then parserBody context operand
  else .error (context.malformed kind (.notExpansion operand.typeName))

def parserBodies (context : ExpansionContext) (kind : String) :
    List Expansion → Except Failure (List Component)
  | [] => .ok []
  | unit :: units => do
    let part ← operandBody context kind unit
    let parts ← parserBodies context kind units
    .ok (part.toList ++ parts)

end

/-! ## Records of a conversion -/

/-- The name of the rule that is converted, as records show it. -/
def ExpansionContext.shownRule (context : ExpansionContext) : String :=
  context.rule.getD "None"

def bodyNote (message : String) : LogRecord :=
  ⟨.debug, "expansion_transform", message⟩

def actionLog (context : ExpansionContext) (scope : Scope) (tokens : List Code.Token) :
    List LogRecord :=
  match actionCalls scope tokens with
  | [] => []
  | calls =>
    [bodyNote ("action in " ++ context.shownRule ++ " calls "
      ++ Text.bracketed (calls.map Text.quoted))]

def callLog (context : ExpansionContext) (scope : Scope) (name : String) : List LogRecord :=
  if name ∈ scope.productions then []
  else
    [bodyNote ("dropping call of " ++ name ++ " in " ++ context.shownRule
      ++ ", not a BNF production")]

mutual

/-- The records that the conversion of an expansion makes up to its first failure. -/
def parserBodyLog (context : ExpansionContext) : Expansion → List LogRecord
  | .sequence units => parserBodiesLog context units
  | .choice branches => if branches.length < 2 then [] else parserBodiesLog context branches
  | .action tokens => (context.scope.map fun scope => actionLog context scope tokens).getD []
  | .nonTerminal name => (context.scope.map fun scope => callLog context scope name).getD []
  | .zeroOrOne operand => parserBodyLog context operand
  | .zeroOrMore operand => parserBodyLog context operand
  | .oneOrMore operand => parserBodyLog context operand
  | .tryBlock operand => parserBodyLog context operand
  | .lookahead _ => []
  | .literal _ => []
  | .reference _ => []
  | .endOfFile => []
  | .unknown => []
  | .foreign _ => []

/-- The records that the conversion of several expansions makes up to its first failure. -/
def parserBodiesLog (context : ExpansionContext) : List Expansion → List LogRecord
  | [] => []
  | unit :: units =>
    parserBodyLog context unit ++
      match parserBody context unit with
      | .ok _ => parserBodiesLog context units
      | .error _ => []

end

end GrammarConversion.Conversion
