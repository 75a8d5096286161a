import Mathlib
import GrammarConversion.Conversion.ParserBody
import GrammarConversion.Proofs.Code.Calls
import GrammarConversion.Proofs.LexerRule.Failures
import GrammarConversion.Proofs.ParserRule.Language

/-!
# The conversion of expansions preserves their languages

An expansion stands for words of symbols, the names of parser rules and of tokens.  What has no
counterpart in a parser grammar (a lookahead, an action that calls nothing, a call of what is no
production) stands for the empty word alone.

Such parts are dropped, and that is where a conversion could go wrong.  In a sequence a dropped
part is a factor `1`.  In a choice it is a summand `1`, which the `?` on what is left makes up for,
however many were dropped (`unionOf_parts`).  And where nothing at all is left, the language is `1`,
which any repetition keeps.

**`parserBody_language`: the part that comes of an expansion has the language of the expansion,**
and nothing comes of it only if that language is the empty word.
-/

namespace GrammarConversion.Model

open Antlr

namespace Expansion

open Conversion

mutual

/-- **The words of an expansion.**  A literal is the name of the rule that it is resolved to. -/
def language (scope : Scope) : Expansion → Language String
  | .sequence units => productOf scope units
  | .choice branches => unionOf scope branches
  | .lookahead _ => 1
  | .action tokens => {(Code.callsByPlace scope.productions tokens).map parserRuleName}
  | .nonTerminal name => if name ∈ scope.productions then {[parserRuleName name]} else 1
  | .zeroOrOne operand => quantifiedWords (some .zeroOrOne) (operand.language scope)
  | .zeroOrMore operand => quantifiedWords (some .zeroOrMore) (operand.language scope)
  | .oneOrMore operand => quantifiedWords (some .oneOrMore) (operand.language scope)
  | .tryBlock operand => operand.language scope
  | .literal image =>
    match scope.lexer.ruleForImage? image with
    | some rule => {[rule.name]}
    | none => 0
  | .reference label => {[ruleName label]}
  | .endOfFile => {["EOF"]}
  | .unknown => 0
  | .foreign _ => 0

/-- The words of expansions one after another. -/
def productOf (scope : Scope) : List Expansion → Language String
  | [] => 1
  | unit :: units => unit.language scope * productOf scope units

/-- The words of alternative expansions. -/
def unionOf (scope : Scope) : List Expansion → Language String
  | [] => 0
  | unit :: units => unit.language scope + unionOf scope units

end

end Expansion

end GrammarConversion.Model

namespace GrammarConversion.Conversion

open Antlr
open Model

/-- The words of what comes of an expansion, where nothing stands for the empty word. -/
def partWords : Option Component → Language String
  | none => 1
  | some part => part.language

/-- The quantifier of a choice that has `kept` of its `count` alternatives left. -/
def choiceQuantifier (kept count : Nat) : Option Quantifier :=
  if kept < count then some .zeroOrOne else none

/-! ## Parts that are put together -/

/-- Putting parts in a row multiplies their languages, also where none or one is left. -/
lemma partWords_joined (parts : List Component) :
    partWords (joined parts) = Component.productOf parts := by
  match parts with
  | [] => rfl
  | [part] => simp [joined, partWords, Component.productOf]
  | first :: second :: others => simp [joined, partWords, Component.language]

lemma productOf_nameElement (names : List String) :
    Component.productOf (names.map nameElement) = {names} := by
  induction names with
  | nil => rfl
  | cons name names ih =>
      rw [List.map_cons, Component.productOf, ih]
      ext word
      simp [nameElement, Component.language, Language.mem_mul, eq_comm]

/-- **What is left of a choice** has the union of what is left, made optional if anything was
dropped. -/
lemma partWords_alternatives {count : Nat} (hcount : 0 < count) (parts : List Component) :
    partWords (alternatives count parts)
      = quantifiedWords (choiceQuantifier parts.length count) (Component.unionOf parts) := by
  match parts with
  | [] =>
      rw [choiceQuantifier, List.length_nil, if_pos hcount]
      show (1 : Language String) = 1 + 0
      rw [add_zero]
  | [part] =>
      show (part.quantified (choiceQuantifier 1 count)).language = _
      rw [Component.language_quantified, Component.unionOf, Component.unionOf, add_zero,
        List.length_singleton]
  | first :: second :: others => rfl

/-- A repetition of what is left of its operand repeats the language of the operand. -/
lemma partWords_map_quantified (q : Quantifier) (inner : Option Component) :
    partWords (inner.map fun part => part.quantified (some q))
      = quantifiedWords (some q) (partWords inner) := by
  cases inner with
  | none => exact (quantifiedWords_one (some q)).symm
  | some part => exact part.language_quantified (some q)

/-- A dropped alternative makes a choice optional, whether or not it is so already. -/
lemma one_add_quantifiedWords_choice (kept count : Nat) (words : Language String) :
    1 + quantifiedWords (choiceQuantifier kept count) words = 1 + words := by
  rw [choiceQuantifier]
  split
  · show 1 + (1 + words) = 1 + words
    rw [← add_assoc, Language.add_self]
  · rfl

/-- An alternative that is kept may be counted inside the quantifier or outside of it. -/
lemma quantifiedWords_choice_add (kept count : Nat) (first words : Language String) :
    quantifiedWords (choiceQuantifier kept count) (first + words)
      = first + quantifiedWords (choiceQuantifier kept count) words := by
  rw [choiceQuantifier]
  split
  · exact add_left_comm 1 first words
  · rfl

lemma choiceQuantifier_succ (kept count : Nat) :
    choiceQuantifier (kept + 1) (count + 1) = choiceQuantifier kept count := by
  simp [choiceQuantifier]

/-! ## The conversion -/

lemma parserBody_of_operandBody {context : ExpansionContext} {kind : String}
    {operand : Expansion} {part : Option Component}
    (h : operandBody context kind operand = .ok part) : parserBody context operand = .ok part := by
  rw [operandBody] at h
  split at h
  · exact h
  · cases h

lemma parserBodies_cons {context : ExpansionContext} {kind : String} {unit : Expansion}
    {units : List Expansion} {parts : List Component}
    (h : parserBodies context kind (unit :: units) = .ok parts) :
    ∃ part others, parserBody context unit = .ok part ∧
      parserBodies context kind units = .ok others ∧ parts = part.toList ++ others := by
  rw [parserBodies] at h
  rcases bind_eq_ok h with ⟨part, hpart, h⟩
  rcases bind_eq_ok h with ⟨others, hothers, h⟩
  cases h
  exact ⟨part, others, parserBody_of_operandBody hpart, hothers, rfl⟩

section Conversion

variable (scope : Scope) (rule : Option String)

/-- What an expansion of a production is converted with. -/
abbrev scopedContext : ExpansionContext :=
  { scope := some scope, rule := rule }

mutual

lemma partWords_parserBody : ∀ (expansion : Expansion) {part : Option Component},
    parserBody (scopedContext scope rule) expansion = .ok part →
      partWords part = expansion.language scope
  | .sequence units, part, h => by
      rw [parserBody] at h
      rcases bind_eq_ok h with ⟨parts, hparts, h⟩
      cases h
      rw [partWords_joined, productOf_parts units hparts, Expansion.language]
  | .choice branches, part, h => by
      rw [parserBody] at h
      split at h
      · cases h
      · rcases bind_eq_ok h with ⟨parts, hparts, h⟩
        cases h
        rw [partWords_alternatives (by omega), (unionOf_parts branches hparts).2,
          Expansion.language]
  | .lookahead amount, part, h => by
      rw [parserBody] at h
      cases h
      rfl
  | .action tokens, part, h => by
      rw [parserBody] at h
      rcases bind_eq_ok h with ⟨found, hfound, h⟩
      cases hfound
      cases h
      rw [partWords_joined, Expansion.language, ← Code.ruleCalls_eq, ← productOf_nameElement,
        List.map_map]
      rfl
  | .nonTerminal name, part, h => by
      rw [parserBody] at h
      rcases bind_eq_ok h with ⟨found, hfound, h⟩
      cases hfound
      rw [Expansion.language]
      split at h
      · cases h
        rw [if_pos ‹_›]
        rfl
      · cases h
        rw [if_neg ‹_›]
        rfl
  | .zeroOrOne operand, part, h => by
      rw [parserBody] at h
      rcases bind_eq_ok h with ⟨inner, hinner, h⟩
      cases h
      rw [partWords_map_quantified,
        partWords_parserBody operand (parserBody_of_operandBody hinner), Expansion.language]
  | .zeroOrMore operand, part, h => by
      rw [parserBody] at h
      rcases bind_eq_ok h with ⟨inner, hinner, h⟩
      cases h
      rw [partWords_map_quantified,
        partWords_parserBody operand (parserBody_of_operandBody hinner), Expansion.language]
  | .oneOrMore operand, part, h => by
      rw [parserBody] at h
      rcases bind_eq_ok h with ⟨inner, hinner, h⟩
      cases h
      rw [partWords_map_quantified,
        partWords_parserBody operand (parserBody_of_operandBody hinner), Expansion.language]
  | .tryBlock operand, part, h => by
      rw [parserBody] at h
      rw [partWords_parserBody operand (parserBody_of_operandBody h), Expansion.language]
  | .literal image, part, h => by
      rw [parserBody] at h
      rcases bind_eq_ok h with ⟨found, hfound, h⟩
      cases hfound
      rw [Expansion.language]
      cases hrule : scope.lexer.ruleForImage? image with
      | none =>
          rw [hrule] at h
          cases h
      | some found =>
          rw [hrule] at h
          cases h
          rfl
  | .reference label, part, h => by
      rw [parserBody] at h
      cases h
      rfl
  | .endOfFile, part, h => by
      rw [parserBody] at h
      cases h
      rfl
  | .unknown, part, h => by
      rw [parserBody] at h
      cases h
  | .foreign value, part, h => by
      rw [parserBody] at h
      cases h

/-- Dropped units of a sequence are factors `1`. -/
lemma productOf_parts : ∀ (units : List Expansion) {kind : String} {parts : List Component},
    parserBodies (scopedContext scope rule) kind units = .ok parts →
      Component.productOf parts = Expansion.productOf scope units
  | [], kind, parts, h => by
      rw [parserBodies] at h
      cases h
      rfl
  | unit :: units, kind, parts, h => by
      rcases parserBodies_cons h with ⟨part, others, hpart, hothers, rfl⟩
      rw [Expansion.productOf, ← partWords_parserBody unit hpart, ← productOf_parts units hothers]
      cases part with
      | none => exact (one_mul _).symm
      | some part => rfl

/-- Dropped alternatives are summands `1`, which a `?` on the others makes up for. -/
lemma unionOf_parts : ∀ (units : List Expansion) {kind : String} {parts : List Component},
    parserBodies (scopedContext scope rule) kind units = .ok parts →
      parts.length ≤ units.length ∧
        quantifiedWords (choiceQuantifier parts.length units.length) (Component.unionOf parts)
          = Expansion.unionOf scope units
  | [], kind, parts, h => by
      rw [parserBodies] at h
      cases h
      exact ⟨le_refl _, rfl⟩
  | unit :: units, kind, parts, h => by
      rcases parserBodies_cons h with ⟨part, others, hpart, hothers, rfl⟩
      rcases unionOf_parts units hothers with ⟨hlength, hunion⟩
      have hfirst := partWords_parserBody unit hpart
      rw [Expansion.unionOf, ← hfirst, ← hunion]
      cases part with
      | none =>
          have hfewer : others.length < units.length + 1 := by omega
          refine ⟨by simpa using Nat.le_succ_of_le hlength, ?_⟩
          rw [partWords, one_add_quantifiedWords_choice, Option.toList_none, List.nil_append,
            List.length_cons, choiceQuantifier, if_pos hfewer]
          rfl
      | some part =>
          refine ⟨by simpa using hlength, ?_⟩
          rw [Option.toList_some, List.singleton_append, List.length_cons, List.length_cons,
            choiceQuantifier_succ, Component.unionOf, quantifiedWords_choice_add, partWords]

end

end Conversion

/-- **Expansion conversion preserves the language.**  Where the conversion of an expansion gives a
part of a parser rule, the part has exactly the words of the expansion, and where it gives nothing,
the empty word is the only one. -/
theorem parserBody_language (scope : Scope) (rule : Option String) (expansion : Expansion)
    (part : Option Component)
    (h : parserBody { scope := some scope, rule := rule } expansion = .ok part) :
    (∀ component, part = some component → component.language = expansion.language scope) ∧
      (part = none → expansion.language scope = 1) := by
  have hwords := partWords_parserBody scope rule expansion h
  constructor
  · rintro component rfl
    exact hwords
  · rintro rfl
    exact hwords.symm

/-- The operand of a repetition is a choice that loses its lookahead: what is left is optional, and
has to be wrapped to be repeated. -/
theorem parserBody_language_wrapped :
    parserBody { scope := some ⟨{ name := "Lexer" }, ["Block"]⟩, rule := some "Unit" }
        (.zeroOrMore (.choice [.nonTerminal "Block", .sequence [.lookahead (some 1)]]))
      = .ok (some (.sequence [.element "block" (some .zeroOrOne)] (some .zeroOrMore))) ∧
    (Component.sequence [.element "block" (some .zeroOrOne)] (some .zeroOrMore)).language
      = Expansion.language ⟨{ name := "Lexer" }, ["Block"]⟩
          (.zeroOrMore (.choice [.nonTerminal "Block", .sequence [.lookahead (some 1)]])) := by
  have h : parserBody { scope := some ⟨{ name := "Lexer" }, ["Block"]⟩, rule := some "Unit" }
        (.zeroOrMore (.choice [.nonTerminal "Block", .sequence [.lookahead (some 1)]]))
      = .ok (some (.sequence [.element "block" (some .zeroOrOne)] (some .zeroOrMore))) := by
    cbv
  exact ⟨h, (parserBody_language _ _ _ _ h).1 _ rfl⟩

end GrammarConversion.Conversion
