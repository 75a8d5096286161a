import GrammarConversion.Proofs.LexerState.OtherStates
import GrammarConversion.Proofs.LexerState.Run

/-!
# The order of the lexical states of a production

A production lists its states in some order, and may list one more than once.  Nothing depends on
that but the order in which modes are registered: two workspaces are `Alike` if they are the same
but for it, and for the records made.

**Two runs are compared token by token.**  The canonical state is picked by its name
(`canonicalState?_congr`) and always comes first, so the first rule is the same in both runs, and
from then on its name.  The rules for the other states keep to themselves, so they are added in both
runs or in none, and leave the same in any order (`HasEntered.alike`).

**`mapProduction_congr`: productions with the same states go through together,** and leave
workspaces that are alike.
-/

namespace GrammarConversion.Conversion

open Antlr
open LexerGrammar
open Model

/-! ## The canonical state -/

lemma leastOf_le (first : String) (others : List String) :
    ∀ other ∈ first :: others, leastOf first others ≤ other := by
  induction others generalizing first with
  | nil =>
      intro other hother
      rw [List.mem_singleton.mp hother]
      exact String.le_refl first
  | cons second others ih =>
      intro other hother
      have hstep : leastOf first (second :: others)
          = leastOf (if second < first then second else first) others := rfl
      rw [hstep]
      have hleast := ih (if second < first then second else first)
      have hhead := hleast _ List.mem_cons_self
      rcases List.mem_cons.mp hother with rfl | hother
      · refine String.le_trans hhead ?_
        split
        · exact String.not_lt.mp (String.lt_asymm ‹_›)
        · exact String.le_refl _
      · rcases List.mem_cons.mp hother with rfl | hother
        · refine String.le_trans hhead ?_
          split
          · exact String.le_refl _
          · exact String.not_lt.mp ‹_›
        · exact hleast other (List.mem_cons_of_mem _ hother)

lemma least?_eq_some_iff {states : List String} {state : String} :
    least? states = some state ↔ state ∈ states ∧ ∀ other ∈ states, state ≤ other := by
  constructor
  · intro h
    refine ⟨least?_mem h, ?_⟩
    cases states with
    | nil => cases h
    | cons first others =>
        rw [← Option.some.inj h]
        exact leastOf_le first others
  · rintro ⟨hmem, hle⟩
    cases states with
    | nil => exact absurd hmem List.not_mem_nil
    | cons first others =>
        rw [least?, Option.some_inj]
        exact String.le_antisymm (leastOf_le first others state hmem)
          (hle _ (leastOf_mem first others))

lemma least?_congr {states states' : List String}
    (h : ∀ state, state ∈ states' ↔ state ∈ states) : least? states' = least? states := by
  refine Option.ext fun state => ?_
  simp only [least?_eq_some_iff, h]

/-- **The canonical state depends on which states there are,** not on their order. -/
lemma canonicalState?_congr {states states' : List String}
    (h : ∀ state, state ∈ states' ↔ state ∈ states) :
    canonicalState? states' = canonicalState? states := by
  have hsimilar : least? (states'.filter fun state =>
        Text.occursIn defaultState.toList state.toList)
      = least? (states.filter fun state => Text.occursIn defaultState.toList state.toList) :=
    least?_congr fun state => by rw [List.mem_filter, List.mem_filter, h]
  rw [canonicalState?, canonicalState?, hsimilar, least?_congr h]
  simp only [h]

/-- The default state is canonical where it is listed. -/
lemma ne_of_mem_others {states : List String} {canonical : String}
    (h : canonicalState? states = some canonical) :
    ∀ state ∈ states.filter (fun state => state ≠ canonical),
      state ≠ canonical ∧ state ≠ defaultState := by
  intro state hstate
  rcases List.mem_filter.mp hstate with ⟨hlisted, hne⟩
  refine ⟨of_decide_eq_true hne, ?_⟩
  rintro rfl
  rw [canonicalState?, if_pos hlisted] at h
  exact of_decide_eq_true hne (Option.some.inj h)

/-! ## Workspaces that are alike -/

namespace Workspace

/-- **Whether two workspaces are alike** but for the order of their modes and the records made. -/
structure Alike (space space' : Workspace) : Prop where
  lexer : LexerGrammar.Alike space.lexer space'.lexer
  names : space'.names = space.names

lemma Alike.noting {space space' : Workspace} (h : Alike space space')
    (records : List LogRecord) : Alike (space.noting records) (space'.noting records) :=
  ⟨h.lexer, h.names⟩

/-- **Adding a rule comes to the same in workspaces that are alike.** -/
lemma Alike.addRule {space space' : Workspace} (h : Alike space space')
    (horder : space.lexer.InOrder) (horder' : space'.lexer.InOrder) (mode : String) (rule : Rule)
    (kind : ProductionKind) :
    Alike (space.addRule mode rule kind).1 (space'.addRule mode rule kind).1 ∧
      (space'.addRule mode rule kind).2 = (space.addRule mode rule kind).2 := by
  have hadded := h.lexer.addRule horder horder' mode rule space.names
    (some fun names => names.next kind)
  rw [Workspace.addRule, Workspace.addRule, h.names]
  exact ⟨⟨hadded.lexer, hadded.names⟩, hadded.result⟩

end Workspace

/-- Modes that are entered in workspaces that are alike, in any order. -/
lemma HasEntered.alike {ruleFor : String → Rule} {modes modes' : List String}
    {before after before' after' : Workspace} (h : before.Alike before')
    (hmodes : ∀ mode, mode ∈ modes' ↔ mode ∈ modes) (hafter : HasEntered ruleFor modes before after)
    (hafter' : HasEntered ruleFor modes' before' after') : after.Alike after' := by
  refine ⟨⟨fun mode => ?_, ?_, fun mode => ?_⟩, ?_⟩
  · rw [hafter.rules, hafter'.rules, h.lexer.rules]
    simp only [hmodes]
  · rw [hafter.letters, hafter'.letters, h.lexer.letters]
  · rw [hafter.modes, hafter'.modes, h.lexer.modes, hmodes]
  · rw [hafter.names, hafter'.names, h.names]

section States

variable {settings : TokenSettings} {production : TokenProduction} {kind : ProductionKind}
  {spec : TokenSpec} {canonical : String} {states states' listed : List String}
  {space space' after : Workspace}

/-! ## Registering modes -/

lemma letterRules_addModes (states : List String) (space : Workspace) :
    (space.addModes states).lexer.letterRules = space.lexer.letterRules := by
  induction states generalizing space with
  | nil => rfl
  | cons state states ih =>
      exact (ih { space with lexer := space.lexer.addMode (modeName state) }).trans
        (letterRules_addMode space.lexer (modeName state))

lemma mem_modes_addModes (states : List String) (space : Workspace) (mode : String) :
    mode ∈ (space.addModes states).lexer.modes.map Mode.name
      ↔ mode ∈ space.lexer.modes.map Mode.name ∨ ∃ state ∈ states, mode = modeName state := by
  induction states generalizing space with
  | nil => simp [Workspace.addModes]
  | cons state states ih =>
      have hrest := ih { space with lexer := space.lexer.addMode (modeName state) }
      rw [mem_modes_addMode, or_assoc] at hrest
      rw [List.exists_mem_cons_iff]
      exact hrest

lemma Workspace.Alike.addModes (h : space.Alike space')
    (hstates : ∀ state, state ∈ states' ↔ state ∈ states) :
    (space.addModes states).Alike (space'.addModes states') := by
  refine ⟨⟨fun mode => ?_, ?_, fun mode => ?_⟩, h.names⟩
  · rw [Workspace.rulesIn_addModes, Workspace.rulesIn_addModes, h.lexer.rules]
  · rw [letterRules_addModes, letterRules_addModes, h.lexer.letters]
  · rw [mem_modes_addModes, mem_modes_addModes, h.lexer.modes]
    simp only [hstates]

/-! ## Two runs -/

/-- **A token that is mapped to some states** is mapped to the same states in any order. -/
lemma Workspace.Alike.mapSpec (h : space.Alike space') (horder : space.lexer.InOrder)
    (horder' : space'.lexer.InOrder) (hstates : ∀ state, state ∈ states' ↔ state ∈ states)
    (hcanonical : canonicalState? states = some canonical)
    (hrun : mapSpec settings production kind canonical (canonicalFirst canonical states) spec space
      = (after, .ok ())) :
    ∃ after', mapSpec settings production kind canonical (canonicalFirst canonical states') spec
        space' = (after', .ok ()) ∧ after.Alike after' := by
  rw [Conversion.mapSpec] at hrun ⊢
  cases hbody : specBody settings production spec with
  | error failure =>
      rw [hbody] at hrun
      cases hrun
  | ok body =>
      rw [hbody] at hrun
      dsimp only at hrun ⊢
      have hnow : ¬(spec.isPrivate && canonical ≠ canonical) = true := by simp
      rcases mapStates_cons_ok hnow hrun with ⟨mid, stored, hadded, hrest⟩
      -- the canonical rule is the same, and so is its name
      have hsame := (h.noting (privateWarning spec)).addRule horder horder' (modeName canonical)
        (stateRule settings kind spec body canonical ((spec.label?.map ruleName).getD "") canonical)
        kind
      rcases hadded' : (space'.noting (privateWarning spec)).addRule (modeName canonical)
        (stateRule settings kind spec body canonical ((spec.label?.map ruleName).getD "") canonical)
        kind with ⟨mid', result⟩
      rw [hadded, hadded'] at hsame
      have halike : mid.Alike mid' := hsame.1
      obtain rfl : result = .ok stored := hsame.2
      rw [canonicalFirst, mapStates_cons_of_ok hnow hadded']
      cases hprivate : spec.isPrivate with
      | true =>
          rw [mapStates_private hprivate (by simp)] at hrest
          rcases Prod.mk.inj hrest with ⟨rfl, -⟩
          exact ⟨mid', mapStates_private hprivate (by simp), halike⟩
      | false =>
          have hmid := inOrder_of_addRule horder hadded
          have hmid' := inOrder_of_addRule horder' hadded'
          have hothers : ∀ state, state ∈ states'.filter (fun state => state ≠ canonical) ↔
              state ∈ states.filter fun state => state ≠ canonical := by
            intro state
            rw [List.mem_filter, List.mem_filter, hstates]
          have hlisted := ne_of_mem_others hcanonical
          rcases hasEntered_of_mapStates hprivate _ mid hmid hlisted hrest with
            ⟨hentered, hadmits⟩
          have hlisted' : ∀ state ∈ states'.filter (fun state => state ≠ canonical),
              state ≠ canonical ∧ state ≠ defaultState :=
            fun state hstate => hlisted state ((hothers state).mp hstate)
          obtain ⟨after', hafter'⟩ := exists_mapStates hprivate _ mid' hmid' hlisted'
            fun state hstate => by
              rw [halike.lexer.rules]
              exact hadmits state ((hothers state).mp hstate)
          have hentered' := (hasEntered_of_mapStates hprivate _ mid' hmid' hlisted' hafter').1
          exact ⟨after', hafter', hentered.alike halike hothers hentered'⟩

lemma Workspace.Alike.mapSpecs (hstates : ∀ state, state ∈ states' ↔ state ∈ states)
    (hcanonical : canonicalState? states = some canonical) (specs : List TokenSpec) :
    ∀ (space space' : Workspace), space.Alike space' → space.lexer.InOrder →
      space'.lexer.InOrder →
      mapSpecs settings production kind canonical (canonicalFirst canonical states) specs space
        = (after, .ok ()) →
      ∃ after', mapSpecs settings { production with listedStates := listed } kind canonical
          (canonicalFirst canonical states') specs space' = (after', .ok ()) ∧
        after.Alike after' := by
  induction specs with
  | nil =>
      intro space space' h _ _ hrun
      rcases Prod.mk.inj hrun with ⟨rfl, -⟩
      exact ⟨space', rfl, h⟩
  | cons spec specs ih =>
      intro space space' h horder horder' hrun
      rw [Conversion.mapSpecs] at hrun
      split at hrun
      · cases hrun
      · rename_i mid hmapped
        rcases h.mapSpec horder horder' hstates hcanonical hmapped with ⟨mid', hmapped', halike⟩
        have hmid := inOrder_of_mapSpec horder hmapped
        have hmid' := inOrder_of_mapSpec horder' hmapped'
        -- the conversion of the token does not ask for the states that are listed
        have hrelisted : Conversion.mapSpec settings { production with listedStates := listed } kind
            canonical (canonicalFirst canonical states') spec space' = (mid', .ok ()) := hmapped'
        rw [Conversion.mapSpecs, hrelisted]
        exact ih mid mid' halike hmid hmid' hrun

lemma mem_states_iff (hlisted : ∀ state, state ∈ listed ↔ state ∈ production.listedStates)
    (state : String) :
    state ∈ { production with listedStates := listed }.states ↔ state ∈ production.states := by
  have hempty : listed.isEmpty = production.listedStates.isEmpty := by
    rw [Bool.eq_iff_iff, List.isEmpty_iff, List.isEmpty_iff, List.eq_nil_iff_forall_not_mem,
      List.eq_nil_iff_forall_not_mem]
    simp only [hlisted]
  rw [TokenProduction.states, TokenProduction.states, hempty]
  split
  · exact Iff.rfl
  · exact hlisted state

/-- **A production that goes through** does so with its states in any order. -/
lemma Workspace.Alike.mapProduction (h : space.Alike space') (horder : space.lexer.InOrder)
    (horder' : space'.lexer.InOrder)
    (hlisted : ∀ state, state ∈ listed ↔ state ∈ production.listedStates)
    (hrun : mapProduction settings production space = (after, .ok ())) :
    ∃ after', mapProduction settings { production with listedStates := listed } space'
        = (after', .ok ()) ∧ after.Alike after' := by
  have hstates := mem_states_iff hlisted
  by_cases hexplicit : production.isExplicit = true
  · have hexplicit' : { production with listedStates := listed }.isExplicit = true := hexplicit
    rcases exists_mapSpecs hexplicit hrun with ⟨kind, canonical, hkind, hcanonical, hmapped⟩
    rw [mapProduction_of_explicit hexplicit' hkind
      ((canonicalState?_congr hstates).trans hcanonical)]
    exact Workspace.Alike.mapSpecs hstates hcanonical production.specs _ _ (h.addModes hstates)
      (kept_inOrder.addModes production.states horder) (kept_inOrder.addModes _ horder') hmapped
  · have himplicit := (Bool.not_eq_true _).mp hexplicit
    have himplicit' : { production with listedStates := listed }.isExplicit = false := himplicit
    rw [mapProduction_of_implicit himplicit] at hrun
    rcases Prod.mk.inj hrun with ⟨rfl, -⟩
    exact ⟨space', mapProduction_of_implicit himplicit' space', h⟩

/-- **The order in which a production lists its states does not matter.**  In a workspace that is
reachable, let a production list its states in another order, or more or less often.  Then it goes
through if and only if it did before; and if so, all modes have the same rules, the letter rules and
the names that are left are the same, and the same modes are registered. -/
theorem mapProduction_congr (h : Reachable settings space)
    (hlisted : ∀ state, state ∈ listed ↔ state ∈ production.listedStates) :
    ((mapProduction settings { production with listedStates := listed } space).2 = .ok () ↔
        (mapProduction settings production space).2 = .ok ()) ∧
      ((mapProduction settings production space).2 = .ok () →
        (mapProduction settings production space).1.Alike
          (mapProduction settings { production with listedStates := listed } space).1) := by
  have halike : space.Alike space := ⟨.refl space.lexer, rfl⟩
  have hforth : (mapProduction settings production space).2 = .ok () →
      ∃ after', mapProduction settings { production with listedStates := listed } space
          = (after', .ok ()) ∧ (mapProduction settings production space).1.Alike after' :=
    fun hok => halike.mapProduction h.inOrder h.inOrder hlisted (Prod.ext rfl hok)
  refine ⟨⟨fun hok => ?_, fun hok => ?_⟩, fun hok => ?_⟩
  · obtain ⟨after', hafter', -⟩ := halike.mapProduction h.inOrder h.inOrder
      (fun state => (hlisted state).symm) (Prod.ext rfl hok)
    exact congrArg Prod.snd hafter'
  · obtain ⟨after', hafter', -⟩ := hforth hok
    rw [hafter']
  · obtain ⟨after', hafter', hsame⟩ := hforth hok
    rw [hafter']
    exact hsame

end States

/-- A token of several states, with its states as they are listed. -/
def severalStates (listed : List String) : TokenProduction :=
  { kind := .known .token
    listedStates := listed
    specs := [{ tree := .regex (.literal "x") }] }

/-- Two states in either order, one of them twice: only the modes are listed differently. -/
theorem mapProduction_congr_severalStates :
    let space : Workspace := { lexer := { name := "L" } }
    let first := mapProduction {} (severalStates ["S", "T"]) space
    let second := mapProduction {} (severalStates ["T", "S", "T"]) space
    first.1.Alike second.1 ∧ second.2 = .ok () ∧
      first.1.lexer.modes.map Mode.name = [defaultMode, "S", "T"] ∧
      second.1.lexer.modes.map Mode.name = [defaultMode, "T", "S"] := by
  have hlisted : ∀ state, state ∈ ["T", "S", "T"] ↔
      state ∈ (severalStates ["S", "T"]).listedStates := by
    intro state
    rw [severalStates]
    grind
  have hreachable : Reachable {} { lexer := { name := "L" } } := .fresh "L" [] []
  have hcongr := mapProduction_congr hreachable hlisted
  have hok : (mapProduction {} (severalStates ["S", "T"]) { lexer := { name := "L" } }).2
      = .ok () := rfl
  exact ⟨hcongr.2 hok, hcongr.1.mpr hok, rfl, rfl⟩

end GrammarConversion.Conversion
