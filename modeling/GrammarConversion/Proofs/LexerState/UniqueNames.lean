import GrammarConversion.Proofs.LexerState.Origin

/-!
# Names over all modes

A lexer grammar has one name space for the rules of all its modes, while a rule that is added is
only compared with the rules of its own mode.  For most rules this makes no difference: different
tokens have different labels, all rules of one label are in one mode, and a generated name is one
that no rule of any mode has.

**`nodup_ruleNames_iff`: only the rules that refer to others from a lexical state can clash.**
Their names are put together from the name of the state and the name of a rule, so a label may
happen to be the same (`nodup_ruleNames_clash`).
-/

namespace GrammarConversion.Conversion

open Antlr
open LexerGrammar
open Model
open NameSupply

section Names

variable {grammar : Grammar} {space : Workspace} {mode mode' : String} {rule rule' : Rule}

/-- Two rules of one name in different modes have no generated name. -/
lemma Workspace.Accounted.not_isGenerated (h : space.Accounted grammar)
    (hrule : rule ∈ space.lexer.rulesIn mode) (hrule' : rule' ∈ space.lexer.rulesIn mode')
    (hmodes : mode ≠ mode') (hname : rule'.name = rule.name) :
    ¬IsGenerated (reservedNames grammar) rule.name :=
  fun hgenerated => hmodes (h.generated mode mode' rule hrule rule' hrule' hgenerated hname).symm

/-- **Of two rules of one name in different modes one refers to another rule.** -/
lemma Workspace.Accounted.isAlias_of_name_eq (h : space.Accounted grammar)
    (hlabels : (reservedNames grammar).Nodup) (hrule : rule ∈ space.lexer.rulesIn mode)
    (hrule' : rule' ∈ space.lexer.rulesIn mode') (hmodes : mode ≠ mode')
    (hname : rule'.name = rule.name) :
    IsAlias grammar mode rule ∨ IsAlias grammar mode' rule' := by
  cases h.origin mode rule hrule with
  | aliased halias => exact .inl halias
  | generated hgenerated _ =>
      exact absurd hgenerated (h.not_isGenerated hrule hrule' hmodes hname)
  | labelled hproduction hspec hlabel hmode hlabelled _ _ =>
      cases h.origin mode' rule' hrule' with
      | aliased halias => exact .inr halias
      | generated hgenerated _ =>
          exact absurd hgenerated (h.not_isGenerated hrule' hrule hmodes.symm hname.symm)
      | labelled hproduction' hspec' hlabel' hmode' hlabelled' _ _ =>
          have hsame := source_eq_of_ruleName_eq hlabels (mem_sources hproduction hspec)
            (mem_sources hproduction' hspec') hlabel hlabel'
            (hlabelled.symm.trans (hname.symm.trans hlabelled'))
          have hproductions := (Prod.mk.inj hsame).1
          rw [hmode, hmode', hproductions] at hmodes
          exact absurd rfl hmodes

/-- **Only rules that refer to others from a lexical state can clash.**  Let the labels of a
grammar be different as names of rules.  Then the rules of all modes of its lexer have different
names if and only if no rule that refers to another one has the name of a rule in another mode. -/
theorem nodup_ruleNames_iff {name : String} (hrun : convertTokens name grammar = (space, .ok ()))
    (hlabels : (reservedNames grammar).Nodup) :
    (space.lexer.rules.map Rule.name).Nodup ↔
      ∀ mode mode', mode ≠ mode' → ∀ rule ∈ space.lexer.rulesIn mode,
        ∀ rule' ∈ space.lexer.rulesIn mode', IsAlias grammar mode rule →
          rule'.name ≠ rule.name := by
  have haccounted := accounted_of_convertTokens hrun
  rw [haccounted.distinctModes.nodup_names_iff]
  constructor
  · rintro ⟨-, hbetween⟩ mode mode' hmodes rule hrule rule' hrule' -
    exact hbetween mode mode' hmodes rule hrule rule' hrule'
  · intro hapart
    refine ⟨haccounted.nodup_names, fun mode mode' hmodes rule hrule rule' hrule' hname => ?_⟩
    rcases haccounted.isAlias_of_name_eq hlabels hrule hrule' hmodes hname with halias | halias
    · exact hapart mode mode' hmodes rule hrule rule' hrule' halias hname
    · exact hapart mode' mode hmodes.symm rule' hrule' rule hrule halias hname.symm

end Names

/-- A token of two states under the label `X`, and another token under the name of the rule that
refers to it. -/
def clashingLabels : Grammar :=
  { tokenProductions :=
      [{ kind := .known .token
         listedStates := ["DEFAULT", "S"]
         specs := [{ tree := .regex (.literal "x"), label := some "X" }] },
        { kind := .known .token
          listedStates := ["DEFAULT"]
          specs := [{ tree := .regex (.literal "y"), label := some "S_X" }] }]
    bnfProductions := [] }

lemma ruleNames_clashingLabels :
    (convertTokens "L" clashingLabels).1.lexer.rules.map Rule.name = ["X", "S_X", "S_X"] :=
  rfl

/-- The rule that refers to `X` clashes with a rule of another mode. -/
theorem exists_isAlias_clashingLabels :
    ∃ mode mode', mode ≠ mode' ∧
      ∃ rule ∈ (convertTokens "L" clashingLabels).1.lexer.rulesIn mode,
        ∃ rule' ∈ (convertTokens "L" clashingLabels).1.lexer.rulesIn mode',
          IsAlias clashingLabels mode rule ∧ rule'.name = rule.name := by
  have hok : (convertTokens "L" clashingLabels).2 = .ok () := rfl
  by_contra hnone
  have hnodup := (nodup_ruleNames_iff (Prod.ext rfl hok) (by decide)).mpr
    fun mode mode' hmodes rule hrule rule' hrule' halias hname =>
      hnone ⟨mode, mode', hmodes, rule, hrule, rule', hrule', halias, hname⟩
  rw [ruleNames_clashingLabels] at hnodup
  exact absurd hnodup (by decide)

/-- **Two rules may have one name:** the labels are different, and the conversion goes through. -/
theorem nodup_ruleNames_clash :
    (reservedNames clashingLabels).Nodup ∧ (convertTokens "L" clashingLabels).2 = .ok () ∧
      ¬((convertTokens "L" clashingLabels).1.lexer.rules.map Rule.name).Nodup := by
  refine ⟨by decide, rfl, ?_⟩
  rw [ruleNames_clashingLabels]
  decide

end GrammarConversion.Conversion
