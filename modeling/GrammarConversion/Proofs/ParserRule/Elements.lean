import GrammarConversion.Conversion.Grammar
import GrammarConversion.Proofs.ParserRule.Expansion

/-!
# What the elements of parser rules are produced from

A parser rule mentions rules and tokens by name: these names are its elements.  Each of them is
produced from one symbol of the BNF production, a call, a literal, a reference to a named token, or
the end of the input.

**`forall₂_of_parserRules`: a parser has one rule for each production,** in the same order.
**`forall₂_symbols`: the elements of a rule are the symbols of its production,** in the same order,
each under its own name.  Neither a quantifier nor a part that is dropped changes that, since what
is dropped holds no symbol.
-/

namespace GrammarConversion.Model

/-- **What an element of a parser rule is produced from.** -/
inductive Symbol where
  /-- A call of a production, by a node of the tree or in embedded code. -/
  | call (production : String)
  | literal (image : String)
  | reference (label : String)
  | endOfFile
  deriving DecidableEq, Repr

namespace Expansion

mutual

/-- **The symbols of an expansion,** from left to right.  Only calls of productions are symbols. -/
def symbols (productions : List String) : Expansion → List Symbol
  | .sequence units => symbolsOf productions units
  | .choice branches => symbolsOf productions branches
  | .lookahead _ => []
  | .action tokens => (Code.callsByPlace productions tokens).map Symbol.call
  | .nonTerminal name => if name ∈ productions then [.call name] else []
  | .zeroOrOne operand => operand.symbols productions
  | .zeroOrMore operand => operand.symbols productions
  | .oneOrMore operand => operand.symbols productions
  | .tryBlock operand => operand.symbols productions
  | .literal image => [.literal image]
  | .reference label => [.reference label]
  | .endOfFile => [.endOfFile]
  | .unknown => []
  | .foreign _ => []

def symbolsOf (productions : List String) : List Expansion → List Symbol
  | [] => []
  | unit :: units => unit.symbols productions ++ symbolsOf productions units

end

end Expansion

/-- The symbols of a tree that is an expansion. -/
def Tree.symbols (productions : List String) : Tree → List Symbol
  | .expansion node => node.symbols productions
  | .regex _ => []
  | .plain _ => []

/-- The symbols of a BNF production of a grammar. -/
def BnfProduction.symbols (grammar : Grammar) (production : BnfProduction) : List Symbol :=
  production.tree.symbols grammar.productionNames

end GrammarConversion.Model

namespace GrammarConversion.Antlr.Component

mutual

/-- **The elements of a part of a parser rule,** from left to right. -/
def elements : Component → List String
  | .element name _ => [name]
  | .sequence children _ => elementsOf children
  | .choice children _ => elementsOf children
  | .unknown _ => []

def elementsOf : List Component → List String
  | [] => []
  | child :: children => child.elements ++ elementsOf children

end

/-- **A quantifier changes no elements,** whether or not the part is wrapped for it. -/
@[simp]
lemma elements_quantified (part : Component) (q : Option Quantifier) :
    (part.quantified q).elements = part.elements := by
  cases q with
  | none => rfl
  | some q =>
      rw [quantified]
      split
      · cases part <;> rfl
      · rw [elements, elementsOf, elementsOf, List.append_nil]

end GrammarConversion.Antlr.Component

namespace GrammarConversion.Conversion

open Antlr
open Model

/-- **The name under which a symbol is an element;** a literal without a rule has none. -/
def elementName? (lexer : LexerGrammar) : Symbol → Option String
  | .call production => some (parserRuleName production)
  | .literal image => (lexer.ruleForImage? image).map Rule.name
  | .reference label => some (ruleName label)
  | .endOfFile => some "EOF"

/-- The elements of what comes of an expansion. -/
def partElements : Option Component → List String
  | none => []
  | some part => part.elements

/-- The elements of the rule for a BNF production; a production that cannot be converted has
none. -/
def ruleElements (grammar : Grammar) (lexer : LexerGrammar) (production : BnfProduction) :
    List String :=
  match productionPart (productionContext grammar lexer production) production.tree with
  | .error _ => []
  | .ok part => partElements part

/-! ## Parts that are put together -/

lemma elementsOf_toList_append (part : Option Component) (parts : List Component) :
    Component.elementsOf (part.toList ++ parts)
      = partElements part ++ Component.elementsOf parts := by
  cases part <;> rfl

lemma partElements_joined (parts : List Component) :
    partElements (joined parts) = Component.elementsOf parts := by
  match parts with
  | [] => rfl
  | [part] => exact (List.append_nil _).symm
  | first :: second :: others => rfl

lemma partElements_alternatives (count : Nat) (parts : List Component) :
    partElements (alternatives count parts) = Component.elementsOf parts := by
  match parts with
  | [] => rfl
  | [part] =>
      rw [Component.elementsOf, Component.elementsOf, List.append_nil]
      exact part.elements_quantified _
  | first :: second :: others => rfl

lemma partElements_map_quantified (q : Option Quantifier) (inner : Option Component) :
    partElements (inner.map fun part => part.quantified q) = partElements inner := by
  cases inner with
  | none => rfl
  | some part => exact part.elements_quantified q

lemma elementsOf_nameElement (names : List String) :
    Component.elementsOf (names.map nameElement) = names := by
  induction names with
  | nil => rfl
  | cons name names ih => exact congrArg (name :: ·) ih

/-! ## Symbols become elements -/

section Elements

variable (scope : Scope) (rule : Option String)

mutual

/-- The induction is on the expansion; what an operation puts around its parts holds no elements. -/
lemma elementName?_parserBody : ∀ (expansion : Expansion) {part : Option Component},
    parserBody (scopedContext scope rule) expansion = .ok part →
      (expansion.symbols scope.productions).map (elementName? scope.lexer)
        = (partElements part).map some
  | .sequence units, part, h => by
      rw [parserBody] at h
      rcases bind_eq_ok h with ⟨parts, hparts, h⟩
      cases h
      rw [partElements_joined, Expansion.symbols, elementName?_parserBodies units hparts]
  | .choice branches, part, h => by
      rw [parserBody] at h
      split at h
      · cases h
      · rcases bind_eq_ok h with ⟨parts, hparts, h⟩
        cases h
        rw [partElements_alternatives, Expansion.symbols, elementName?_parserBodies branches hparts]
  | .lookahead amount, part, h => by
      rw [parserBody] at h
      cases h
      rfl
  | .action tokens, part, h => by
      rw [parserBody] at h
      rcases bind_eq_ok h with ⟨found, hfound, h⟩
      cases hfound
      cases h
      have hnames : (actionCalls scope tokens).map (fun name => nameElement (parserRuleName name))
          = ((actionCalls scope tokens).map parserRuleName).map nameElement := by
        rw [List.map_map]
        rfl
      rw [partElements_joined, hnames, elementsOf_nameElement, Expansion.symbols,
        ← Code.ruleCalls_eq, List.map_map, List.map_map]
      rfl
  | .nonTerminal name, part, h => by
      rw [parserBody] at h
      rcases bind_eq_ok h with ⟨found, hfound, h⟩
      cases hfound
      rw [Expansion.symbols]
      split at h
      · cases h
        rw [if_pos ‹_›]
        rfl
      · cases h
        rw [if_neg ‹_›]
        rfl
  | .zeroOrOne operand, part, h => by
      rw [parserBody] at h
      rcases bind_eq_ok h with ⟨inner, hinner, h⟩
      cases h
      rw [partElements_map_quantified, Expansion.symbols,
        elementName?_parserBody operand (parserBody_of_operandBody hinner)]
  | .zeroOrMore operand, part, h => by
      rw [parserBody] at h
      rcases bind_eq_ok h with ⟨inner, hinner, h⟩
      cases h
      rw [partElements_map_quantified, Expansion.symbols,
        elementName?_parserBody operand (parserBody_of_operandBody hinner)]
  | .oneOrMore operand, part, h => by
      rw [parserBody] at h
      rcases bind_eq_ok h with ⟨inner, hinner, h⟩
      cases h
      rw [partElements_map_quantified, Expansion.symbols,
        elementName?_parserBody operand (parserBody_of_operandBody hinner)]
  | .tryBlock operand, part, h => by
      rw [parserBody] at h
      rw [Expansion.symbols, elementName?_parserBody operand (parserBody_of_operandBody h)]
  | .literal image, part, h => by
      rw [parserBody] at h
      rcases bind_eq_ok h with ⟨found, hfound, h⟩
      cases hfound
      rw [Expansion.symbols, List.map_singleton, elementName?]
      cases hrule : scope.lexer.ruleForImage? image with
      | none =>
          rw [hrule] at h
          cases h
      | some found =>
          rw [hrule] at h
          cases h
          rfl
  | .reference label, part, h => by
      rw [parserBody] at h
      cases h
      rfl
  | .endOfFile, part, h => by
      rw [parserBody] at h
      cases h
      rfl
  | .unknown, part, h => by
      rw [parserBody] at h
      cases h
  | .foreign value, part, h => by
      rw [parserBody] at h
      cases h

lemma elementName?_parserBodies : ∀ (units : List Expansion) {kind : String}
    {parts : List Component}, parserBodies (scopedContext scope rule) kind units = .ok parts →
      (Expansion.symbolsOf scope.productions units).map (elementName? scope.lexer)
        = (Component.elementsOf parts).map some
  | [], kind, parts, h => by
      rw [parserBodies] at h
      cases h
      rfl
  | unit :: units, kind, parts, h => by
      rcases parserBodies_cons h with ⟨part, others, hpart, hothers, rfl⟩
      rw [Expansion.symbolsOf, List.map_append, elementName?_parserBody unit hpart,
        elementName?_parserBodies units hothers, elementsOf_toList_append, List.map_append]

end

end Elements

/-! ## Calls -/

mutual

/-- **Only productions are called.** -/
lemma mem_of_call_mem_symbols {productions : List String} {called : String} :
    ∀ (expansion : Expansion), .call called ∈ expansion.symbols productions →
      called ∈ productions
  | .sequence units, h => mem_of_call_mem_symbolsOf units h
  | .choice branches, h => mem_of_call_mem_symbolsOf branches h
  | .lookahead _, h => absurd h List.not_mem_nil
  | .action tokens, h => by
      rw [Expansion.symbols] at h
      rcases List.mem_map.mp h with ⟨name, hname, hcall⟩
      rw [← Symbol.call.inj hcall]
      exact Code.mem_of_mem_callsByPlace hname
  | .nonTerminal name, h => by
      rw [Expansion.symbols] at h
      split at h
      · rwa [Symbol.call.inj (List.mem_singleton.mp h)]
      · exact absurd h List.not_mem_nil
  | .zeroOrOne operand, h => mem_of_call_mem_symbols operand h
  | .zeroOrMore operand, h => mem_of_call_mem_symbols operand h
  | .oneOrMore operand, h => mem_of_call_mem_symbols operand h
  | .tryBlock operand, h => mem_of_call_mem_symbols operand h
  | .literal _, h => absurd (List.mem_singleton.mp h) (by simp)
  | .reference _, h => absurd (List.mem_singleton.mp h) (by simp)
  | .endOfFile, h => absurd (List.mem_singleton.mp h) (by simp)
  | .unknown, h => absurd h List.not_mem_nil
  | .foreign _, h => absurd h List.not_mem_nil

lemma mem_of_call_mem_symbolsOf {productions : List String} {called : String} :
    ∀ (units : List Expansion), .call called ∈ Expansion.symbolsOf productions units →
      called ∈ productions
  | [], h => absurd h List.not_mem_nil
  | unit :: units, h => by
      rw [Expansion.symbolsOf] at h
      rcases List.mem_append.mp h with h | h
      · exact mem_of_call_mem_symbols unit h
      · exact mem_of_call_mem_symbolsOf units h

end

/-! ## Rules of a grammar -/

section Rules

variable {grammar : Grammar} {lexer : LexerGrammar} {production : BnfProduction}

/-- **Only productions of the grammar are called.** -/
lemma mem_productionNames_of_call {called : String}
    (h : .call called ∈ production.symbols grammar) : called ∈ grammar.productionNames := by
  rw [Model.BnfProduction.symbols] at h
  cases htree : production.tree with
  | expansion node =>
      rw [htree] at h
      exact Conversion.mem_of_call_mem_symbols node h
  | regex node =>
      rw [htree] at h
      exact absurd h List.not_mem_nil
  | plain value =>
      rw [htree] at h
      exact absurd h List.not_mem_nil

lemma elementName?_of_productionBody {body : String}
    (h : productionBody (productionContext grammar lexer production) production = .ok body) :
    (production.symbols grammar).map (elementName? lexer)
      = (ruleElements grammar lexer production).map some := by
  rw [productionBody] at h
  rcases bind_eq_ok h with ⟨part, hpart, -⟩
  rw [ruleElements, hpart, Model.BnfProduction.symbols]
  cases htree : production.tree with
  | expansion node =>
      rw [htree] at hpart
      exact elementName?_parserBody ⟨lexer, grammar.productionNames⟩ (some production.name) node
        hpart
  | regex node =>
      rw [htree, productionPart] at hpart
      rcases bind_eq_ok hpart with ⟨_, -, hpart⟩
      cases hpart
  | plain value =>
      rw [htree] at hpart
      cases hpart

/-- **The rule of a parser for a BNF production.** -/
structure IsRuleFor (grammar : Grammar) (lexer : LexerGrammar) (production : BnfProduction)
    (rule : Rule) : Prop where
  name : rule.name = parserRuleName production.name
  body : ∃ body, rule.body = .text body ∧
    productionBody (productionContext grammar lexer production) production = .ok body

/-- **The elements of a rule are the symbols of its production,** in the same order and each under
its own name, so what holds of all symbols and their names holds along the rule. -/
lemma IsRuleFor.forall₂_symbols {rule : Rule} (h : IsRuleFor grammar lexer production rule)
    {holds : Symbol → String → Prop}
    (hsymbols : ∀ symbol ∈ production.symbols grammar, ∀ element,
      elementName? lexer symbol = some element → holds symbol element) :
    List.Forall₂ holds (production.symbols grammar) (ruleElements grammar lexer production) := by
  rcases h.body with ⟨body, -, hbody⟩
  have hnames : List.Forall₂ (· = ·) ((production.symbols grammar).map (elementName? lexer))
      ((ruleElements grammar lexer production).map some) := by
    rw [List.forall₂_eq_eq_eq]
    exact elementName?_of_productionBody hbody
  have hnamed : List.Forall₂ (fun symbol element => elementName? lexer symbol = some element)
      (production.symbols grammar) (ruleElements grammar lexer production) :=
    List.forall₂_map_left_iff.mp (List.forall₂_map_right_iff.mp hnames)
  have hboth := (List.forall₂_and_left _ _).mpr ⟨hsymbols, hnamed⟩
  exact hboth.imp fun symbol element hpair => hpair.1 element hpair.2

/-- **A parser has one rule for each production,** in the same order. -/
lemma forall₂_of_parserRules {productions : List BnfProduction} {rules : List Rule}
    (h : parserRules grammar lexer productions = .ok rules) :
    List.Forall₂ (IsRuleFor grammar lexer) productions rules := by
  induction productions generalizing rules with
  | nil =>
      cases h
      exact .nil
  | cons production productions ih =>
      rw [parserRules] at h
      rcases bind_eq_ok h with ⟨body, hbody, h⟩
      rcases bind_eq_ok h with ⟨others, hothers, h⟩
      cases h
      exact .cons ⟨rfl, body, rfl, hbody⟩ (ih hothers)

lemma exists_isRuleFor {productions : List BnfProduction} {rules : List Rule}
    (h : List.Forall₂ (IsRuleFor grammar lexer) productions rules) :
    ∀ production ∈ productions, ∃ rule, IsRuleFor grammar lexer production rule := by
  induction h with
  | nil => simp
  | cons hrule _ ih =>
      intro production hproduction
      rcases List.mem_cons.mp hproduction with rfl | hproduction
      · exact ⟨_, hrule⟩
      · exact ih production hproduction

end Rules

end GrammarConversion.Conversion
