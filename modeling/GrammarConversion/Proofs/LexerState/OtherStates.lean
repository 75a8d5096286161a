import GrammarConversion.Proofs.LexerGrammar.Alike
import GrammarConversion.Proofs.LexerState.Mapping
import GrammarConversion.Proofs.LexerState.Reachable

/-!
# The rules for the other states

A token that is not private has a rule in each state of its production other than the canonical one.
**These rules keep to themselves.**  Such a rule has a name, which is not that of a letter, and does
not refer to itself.  So it is compared with the rules of its own mode only, it takes nothing from
the supply of names, and it is added at most once.

The modes are those of the states, by the same names: the default state, whose mode has another
name, is canonical wherever it is listed.

* `hasEntered_of_mapStates` says what is left where the rules are added: **each mode has its rule,
  and nothing else has changed** (`HasEntered`), however often a state is listed.
* `exists_mapStates` says that they are added if each mode admits its own (`Admits`).
-/

namespace GrammarConversion.Antlr.LexerGrammar

/-! ## A rule for a mode -/

/-- The rules of a mode with one more rule, unless there is one of its name. -/
def withRule (rules : List Rule) (rule : Rule) : List Rule :=
  if rule.name ∈ rules.map Rule.name then rules else rules ++ [rule]

/-- **Whether a rule may be added to the rules of a mode:** a rule of its name has its body. -/
def Admits (rules : List Rule) (rule : Rule) : Prop :=
  ∀ existing ∈ rules, existing.name = rule.name → existing.body.same rule.body = true

lemma mem_withRule (rules : List Rule) (rule : Rule) :
    rule.name ∈ (withRule rules rule).map Rule.name := by
  rw [withRule]
  split
  · assumption
  · simp

/-- A rule is added once. -/
lemma withRule_withRule (rules : List Rule) (rule : Rule) :
    withRule (withRule rules rule) rule = withRule rules rule :=
  if_pos (mem_withRule rules rule)

lemma Admits.withRule {rules : List Rule} {rule : Rule} (h : Admits rules rule)
    (hbody : rule.body.isParserPart = false) : Admits (withRule rules rule) rule := by
  rw [LexerGrammar.withRule]
  split
  · exact h
  · intro existing hexisting hname
    rcases List.mem_append.mp hexisting with hmem | hmem
    · exact h existing hmem hname
    · rw [List.mem_singleton.mp hmem]
      exact (Body.same_iff _ _).mpr ⟨rfl, hbody⟩

variable {lexer lexer' : LexerGrammar} {mode : String} {rule : Rule}
  {result : Except Failure (Option Rule)}

/-- **A rule that does not refer to itself is stored** if its mode admits it, and only then. -/
lemma Placing.ok_iff (h : Placing lexer mode rule lexer' result)
    (hself : rule.body ≠ .text rule.name) (horder : lexer.InOrder) :
    (∃ stored, result = .ok stored) ↔ Admits (lexer.rulesIn mode) rule := by
  cases h with
  | dropped heq => exact absurd heq hself
  | @present existing _ hmem hname hsame =>
      refine ⟨fun _ other hother hothername => ?_, fun _ => ⟨_, rfl⟩⟩
      rw [horder.eq_of_name hmem hother (hothername.trans hname.symm)]
      exact hsame
  | conflict _ hmem hname hdiffers =>
      constructor
      · rintro ⟨stored, hok⟩
        cases hok
      · intro hadmits
        have hsame := hadmits _ hmem hname
        rw [hdiffers] at hsame
        exact Bool.noConfusion hsame
  | appended _ hnew =>
      exact ⟨fun _ other hother hname => absurd hname (hnew other hother), fun _ => ⟨_, rfl⟩⟩

lemma Placing.rulesIn_eq {stored : Option Rule}
    (h : Placing lexer mode rule lexer' (.ok stored)) (hself : rule.body ≠ .text rule.name)
    (hmode : mode ∈ lexer.modes.map Mode.name) (other : String) :
    lexer'.rulesIn other
      = if other = mode then withRule (lexer.rulesIn other) rule else lexer.rulesIn other := by
  cases h with
  | dropped heq => exact absurd heq hself
  | @present existing _ hmem hname _ =>
      split
      · rename_i hother
        rw [hother, withRule, if_pos (List.mem_map.mpr ⟨existing, hmem, hname⟩)]
      · rfl
  | appended _ hnew =>
      rw [rulesIn_append]
      split
      · rename_i hother
        rw [if_pos hother.1, withRule, if_neg]
        rw [hother.1]
        intro hmem
        rcases List.mem_map.mp hmem with ⟨existing, hexisting, hname⟩
        exact hnew existing hexisting hname
      · rename_i hother
        rw [if_neg fun heq => hother ⟨heq, hmode⟩]

end GrammarConversion.Antlr.LexerGrammar

namespace GrammarConversion.Conversion

open Antlr
open LexerGrammar
open Model

/-! ## The rules for the other states -/

/-- **Each of some modes has its rule,** and nothing else has changed: neither the other modes nor
the letter rules nor the names that are left. -/
structure HasEntered (ruleFor : String → Rule) (modes : List String) (space space' : Workspace) :
    Prop where
  rules : ∀ mode, space'.lexer.rulesIn mode
    = if mode ∈ modes then withRule (space.lexer.rulesIn mode) (ruleFor mode)
      else space.lexer.rulesIn mode
  letters : space'.lexer.letterRules = space.lexer.letterRules
  modes : ∀ mode, mode ∈ space'.lexer.modes.map Mode.name
    ↔ mode ∈ space.lexer.modes.map Mode.name ∨ mode ∈ modes
  names : space'.names = space.names

lemma HasEntered.nil (ruleFor : String → Rule) (space : Workspace) :
    HasEntered ruleFor [] space space :=
  ⟨fun _ => rfl, rfl, by simp, rfl⟩

/-- **A mode that is entered again stays as it is.** -/
lemma HasEntered.cons {ruleFor : String → Rule} {mode : String} {modes : List String}
    {space mid space' : Workspace} (h : HasEntered ruleFor [mode] space mid)
    (hrest : HasEntered ruleFor modes mid space') :
    HasEntered ruleFor (mode :: modes) space space' := by
  refine ⟨fun other => ?_, hrest.letters.trans h.letters, fun other => ?_,
    hrest.names.trans h.names⟩
  · rw [hrest.rules, h.rules]
    simp only [List.mem_cons, List.not_mem_nil, or_false]
    by_cases hother : other = mode
    · by_cases hagain : other ∈ modes
      · rw [if_pos hagain, if_pos hother, if_pos (.inl hother), withRule_withRule]
      · rw [if_neg hagain, if_pos hother, if_pos (.inl hother)]
    · rw [if_neg hother]
      simp only [hother, false_or]
  · rw [hrest.modes, h.modes, List.mem_singleton, List.mem_cons, or_assoc]

section States

variable {settings : TokenSettings} {kind : ProductionKind} {spec : TokenSpec} {body : Body}
  {canonical target state : String} {space space' : Workspace} {records : List LogRecord}

/-- The rule for another state, under the name that it is stored by. -/
def stateAlias (settings : TokenSettings) (kind : ProductionKind) (spec : TokenSpec) (body : Body)
    (canonical target state : String) : Rule :=
  { stateRule settings kind spec body canonical target state with
    name := ruleName (state ++ "_" ++ target) }

lemma stateRule_other (settings : TokenSettings) (kind : ProductionKind)
    (hpublic : spec.isPrivate = false) (body : Body) (target : String)
    (hstate : state ≠ canonical) :
    (stateRule settings kind spec body canonical target state).name = state ++ "_" ++ target ∧
      (stateRule settings kind spec body canonical target state).body = .text target := by
  rw [stateRule, hpublic, if_neg Bool.false_ne_true, if_neg hstate]
  exact ⟨rfl, rfl⟩

/-- **Adding the rule for another state** is placing it in its mode: it is not the rule of a
letter. -/
lemma placing_of_addRule_other (hpublic : spec.isPrivate = false) (hstate : state ≠ canonical)
    (hdefault : state ≠ defaultState) (horder : space.lexer.InOrder) {mid : Workspace}
    {result : Except Failure (Option Rule)}
    (hadded : (space.noting records).addRule (modeName state)
      (stateRule settings kind spec body canonical target state) kind = (mid, result)) :
    Placing (space.lexer.addMode state) state
        (stateAlias settings kind spec body canonical target state) mid.lexer result ∧
      mid.names = space.names := by
  rcases stateRule_other settings kind hpublic body target hstate with ⟨hname, -⟩
  have hmode : modeName state = state := if_neg hdefault
  have hletter : (space.lexer.addMode state).letterRule? (ruleName (state ++ "_" ++ target))
      = none := by
    refine letterRule?_eq_none_iff.mpr fun letter hletter hsame => ?_
    rw [letterRules_addMode] at hletter
    have hunderscore := underscore_mem_ruleName state target
    rw [← hsame] at hunderscore
    exact underscore_notMem_letter letter (horder.letters.subset hletter) hunderscore
  have hadding := Workspace.adding_of_addRule hadded
  rcases hadding.settling_of_named (hname ▸ prefixed_ne_empty state target) with ⟨hsettle, hnames⟩
  rw [hmode, hname] at hsettle
  exact ⟨hsettle.placing hletter, hnames⟩

lemma stateAlias_body_ne (settings : TokenSettings) (kind : ProductionKind)
    (hpublic : spec.isPrivate = false) (body : Body) (target : String)
    (hstate : state ≠ canonical) :
    (stateAlias settings kind spec body canonical target state).body
      ≠ .text (stateAlias settings kind spec body canonical target state).name := by
  intro hself
  have hbody := (stateRule_other settings kind hpublic body target hstate).2
  exact ruleName_prefixed_ne state target (Body.text.inj (hself.symm.trans hbody))

/-- **What is left by the rule for another state** that is added, and that its mode admits it. -/
lemma hasEntered_of_addRule_other (hpublic : spec.isPrivate = false) (hstate : state ≠ canonical)
    (hdefault : state ≠ defaultState) (horder : space.lexer.InOrder) {mid : Workspace}
    {stored : Option Rule}
    (hadded : (space.noting records).addRule (modeName state)
      (stateRule settings kind spec body canonical target state) kind = (mid, .ok stored)) :
    Admits (space.lexer.rulesIn state)
        (stateAlias settings kind spec body canonical target state) ∧
      HasEntered (stateAlias settings kind spec body canonical target) [state] space mid := by
  rcases placing_of_addRule_other hpublic hstate hdefault horder hadded with ⟨hplacing, hnames⟩
  have hself := stateAlias_body_ne settings kind hpublic body target hstate
  have hregistered : state ∈ (space.lexer.addMode state).modes.map Mode.name :=
    mem_modes_addMode.mpr (.inr rfl)
  have hadmits := (hplacing.ok_iff hself (horder.addMode state)).mp ⟨stored, rfl⟩
  rw [rulesIn_addMode] at hadmits
  refine ⟨hadmits, fun mode => ?_, ?_, fun mode => ?_, hnames⟩
  · rw [hplacing.rulesIn_eq hself hregistered, rulesIn_addMode]
    simp only [List.mem_singleton]
    split
    · rename_i hmode
      rw [hmode]
    · rfl
  · rw [hplacing.letterRules_eq, letterRules_addMode]
  · rw [hplacing.extends_modes.map_name_eq, mem_modes_addMode, List.mem_singleton]

/-- **The rule for another state is added** if its mode admits it. -/
lemma exists_addRule_other (hpublic : spec.isPrivate = false) (hstate : state ≠ canonical)
    (hdefault : state ≠ defaultState) (horder : space.lexer.InOrder)
    (hadmits : Admits (space.lexer.rulesIn state)
      (stateAlias settings kind spec body canonical target state)) :
    ∃ mid stored, (space.noting records).addRule (modeName state)
      (stateRule settings kind spec body canonical target state) kind = (mid, .ok stored) := by
  rcases hadded : (space.noting records).addRule (modeName state)
    (stateRule settings kind spec body canonical target state) kind with ⟨mid, result⟩
  have hplacing := (placing_of_addRule_other hpublic hstate hdefault horder hadded).1
  rw [← rulesIn_addMode space.lexer state] at hadmits
  rcases (hplacing.ok_iff (stateAlias_body_ne settings kind hpublic body target hstate)
    (horder.addMode state)).mpr hadmits with ⟨stored, rfl⟩
  exact ⟨mid, stored, rfl⟩

/-- **What is left by the rules for the other states,** and that their modes admit them. -/
lemma hasEntered_of_mapStates (hpublic : spec.isPrivate = false) (states : List String) :
    ∀ (space : Workspace), space.lexer.InOrder →
      (∀ state ∈ states, state ≠ canonical ∧ state ≠ defaultState) →
      mapStates settings kind spec body canonical states target space = (space', .ok ()) →
      HasEntered (stateAlias settings kind spec body canonical target) states space space' ∧
        ∀ state ∈ states, Admits (space.lexer.rulesIn state)
          (stateAlias settings kind spec body canonical target state) := by
  induction states with
  | nil =>
      intro space _ _ h
      rcases Prod.mk.inj h with ⟨rfl, -⟩
      exact ⟨.nil _ space, fun _ hstate => absurd hstate List.not_mem_nil⟩
  | cons first states ih =>
      intro space horder hstates h
      rcases hstates first List.mem_cons_self with ⟨hfirst, hdefault⟩
      rcases mapStates_cons_ok (by simp [hpublic]) h with ⟨mid, stored, hadded, hrest⟩
      rw [if_neg hfirst] at hrest
      have hmid := inOrder_of_addRule horder hadded
      have hentered := hasEntered_of_addRule_other hpublic hfirst hdefault horder hadded
      rcases ih mid hmid (fun other hother => hstates other (by simp [hother])) hrest with
        ⟨hlater, hadmits⟩
      refine ⟨hentered.2.cons hlater, fun state hstate => ?_⟩
      by_cases hsame : state = first
      · rw [hsame]
        exact hentered.1
      · have hother := hadmits state ((List.mem_cons.mp hstate).resolve_left hsame)
        rwa [hentered.2.rules, if_neg (by simpa using hsame)] at hother

/-- **The rules for the other states are added** if their modes admit them. -/
lemma exists_mapStates (hpublic : spec.isPrivate = false) (states : List String) :
    ∀ (space : Workspace), space.lexer.InOrder →
      (∀ state ∈ states, state ≠ canonical ∧ state ≠ defaultState) →
      (∀ state ∈ states, Admits (space.lexer.rulesIn state)
        (stateAlias settings kind spec body canonical target state)) →
      ∃ space', mapStates settings kind spec body canonical states target space
        = (space', .ok ()) := by
  induction states with
  | nil => exact fun space _ _ _ => ⟨space, rfl⟩
  | cons first states ih =>
      intro space horder hstates hadmits
      rcases hstates first List.mem_cons_self with ⟨hfirst, hdefault⟩
      obtain ⟨mid, stored, hadded⟩ : ∃ mid stored, (space.noting (privateWarning spec)).addRule
          (modeName first) (stateRule settings kind spec body canonical target first) kind
            = (mid, .ok stored) :=
        exists_addRule_other hpublic hfirst hdefault horder (hadmits first List.mem_cons_self)
      have hmid := inOrder_of_addRule horder hadded
      have hentered := hasEntered_of_addRule_other hpublic hfirst hdefault horder hadded
      rw [mapStates_cons_of_ok (by simp [hpublic]) hadded, if_neg hfirst]
      refine ih mid hmid (fun other hother => hstates other (by simp [hother])) ?_
      intro state hstate
      have hbefore := hadmits state (List.mem_cons_of_mem first hstate)
      rw [hentered.2.rules]
      split
      · refine hbefore.withRule ?_
        rw [stateAlias, (stateRule_other settings kind hpublic body target
          (hstates state (List.mem_cons_of_mem first hstate)).1).2]
        rfl
      · exact hbefore

end States

end GrammarConversion.Conversion
