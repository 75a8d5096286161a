import GrammarConversion.Proofs.LexerState.Mapping

/-!
# The turns of a conversion

The token specifications of a grammar take their turns one after another, and each of them adds the
rules for its states.  A `Turn` is one specification with the workspace before and after it; the
turns of a conversion are its history.

**What a turn does to the mode of a state is its `Turn.Effect`.**  A turn that does not concern the
state adds nothing there that matches on its own.  Any other turn leaves a rule there that matches
what its body matches: a rule from before, or one more rule at the end.
-/

namespace GrammarConversion.Conversion

open Antlr
open LexerGrammar
open Model

/-! ## Turns -/

/-- **The turn of a token specification** in a conversion that goes through. -/
structure Turn where
  production : TokenProduction
  kind : ProductionKind
  /-- The canonical state of the production. -/
  canonical : String
  spec : TokenSpec
  before : Workspace
  after : Workspace

/-- Whether a token that matches on its own is active in a state. -/
def Turn.Concerns (turn : Turn) (state : String) : Prop :=
  turn.spec.isPrivate = false ∧ state ∈ turn.production.states

/-- **The rule in the canonical state,** as it is stored there. -/
def Turn.canonicalRule? (settings : TokenSettings) (turn : Turn) : Option Rule :=
  match specBody settings turn.production turn.spec with
  | .error _ => none
  | .ok body =>
    let rule := stateRule settings turn.kind turn.spec body turn.canonical (givenName turn.spec)
      turn.canonical
    match (turn.before.noting (privateWarning turn.spec)).addRule (modeName turn.canonical) rule
      turn.kind with
    | (_, .error _) => none
    | (_, .ok stored) => stored

/-- The turns of several specifications of a production. -/
def specTurns (settings : TokenSettings) (production : TokenProduction) (kind : ProductionKind)
    (canonical : String) : List TokenSpec → Workspace → List Turn
  | [], _ => []
  | spec :: specs, space =>
    let states := canonicalFirst canonical production.states
    let after := (mapSpec settings production kind canonical states spec space).1
    ⟨production, kind, canonical, spec, space, after⟩
      :: specTurns settings production kind canonical specs after

/-- The turns of a production. -/
def productionTurns (settings : TokenSettings) (production : TokenProduction)
    (space : Workspace) : List Turn :=
  match production.kind, canonicalState? production.states with
  | .known kind, some canonical =>
    specTurns settings production kind canonical production.specs
      (space.addModes production.states)
  | _, _ => []

/-- **The turns of several explicit productions.** -/
def turns (settings : TokenSettings) : List TokenProduction → Workspace → List Turn
  | [], _ => []
  | production :: productions, space =>
    productionTurns settings production space
      ++ turns settings productions (mapProduction settings production space).1

/-- **The turns of the conversion of a grammar** all of whose token productions are explicit. -/
def tokenTurns (name : String) (grammar : Grammar) : List Turn :=
  turns (tokenSettings grammar) grammar.tokenProductions (initialWorkspace name grammar)

/-! ## The effect of a turn -/

/-- **What a turn does to the rules of the mode for a state.** -/
inductive Turn.Effect (accepts : Body → String → Prop) (settings : TokenSettings) (turn : Turn)
    (state : String) (rules rules' : List Rule) : Prop
  /-- No rule is added but for fragments. -/
  | idle {news : List Rule} (hidle : ¬turn.Concerns state) (hrules : rules' = rules ++ news)
      (hfragments : ∀ rule ∈ news, rule.isFragment = true)
  /-- A rule serves the body of the turn. -/
  | served {body : Body} {canonicalRule stored : Rule} (hconcerns : turn.Concerns state)
      (hbody : specBody settings turn.production turn.spec = .ok body)
      (hcanonical : turn.canonicalRule? settings = some canonicalRule)
      (hserves : Serves accepts (stateRule settings turn.kind turn.spec body turn.canonical
        canonicalRule.name state) body rules rules' stored)

/-- **A turn of a conversion that goes through.** -/
structure Turn.GoesThrough (settings : TokenSettings) (grammar : Grammar) (turn : Turn) :
    Prop where
  sound : turn.before.Sound grammar
  production_mem : turn.production ∈ grammar.tokenProductions
  spec_mem : turn.spec ∈ turn.production.specs
  canonical_mem : turn.canonical ∈ turn.production.states
  mapped : mapSpec settings turn.production turn.kind turn.canonical
    (canonicalFirst turn.canonical turn.production.states) turn.spec turn.before
      = (turn.after, .ok ())

section Effect

variable {settings : TokenSettings} {grammar : Grammar} {turn : Turn}

lemma Turn.GoesThrough.spec_mem_specs (h : turn.GoesThrough settings grammar) :
    turn.spec ∈ grammar.specs :=
  List.mem_flatMap.mpr ⟨turn.production, h.production_mem, h.spec_mem⟩

/-- A turn begins with the rule for the canonical state, which the other states refer to. -/
lemma Turn.GoesThrough.exists_canonical (h : turn.GoesThrough settings grammar)
    (hpublic : turn.spec.isPrivate = false) :
    ∃ body mid, specBody settings turn.production turn.spec = .ok body ∧
      (turn.before.noting (privateWarning turn.spec)).addRule (modeName turn.canonical)
          (stateRule settings turn.kind turn.spec body turn.canonical (givenName turn.spec)
            turn.canonical) turn.kind
        = (mid, .ok (turn.canonicalRule? settings)) ∧
      mapStates settings turn.kind turn.spec body turn.canonical
          (turn.production.states.filter fun state => state ≠ turn.canonical)
          (((turn.canonicalRule? settings).map Rule.name).getD (givenName turn.spec)) mid
        = (turn.after, .ok ()) := by
  have hmapped := h.mapped
  rw [mapSpec] at hmapped
  split at hmapped
  · exact absurd (Prod.mk.inj hmapped).2 (by simp)
  · rename_i body hbody
    rcases mapStates_cons_ok (by simp [hpublic]) hmapped with ⟨mid, stored, hadded, hrest⟩
    have hcanonical : turn.canonicalRule? settings = stored := by
      rw [canonicalRule?, hbody]
      dsimp only
      rw [show (turn.before.noting (privateWarning turn.spec)).addRule (modeName turn.canonical)
        (stateRule settings turn.kind turn.spec body turn.canonical (givenName turn.spec)
          turn.canonical) turn.kind = _ from hadded]
    rw [if_pos rfl] at hrest
    rw [hcanonical]
    exact ⟨body, mid, hbody, hadded, hrest⟩

/-- **The turn of a private token** is its rule for the canonical state and nothing else. -/
lemma Turn.GoesThrough.exists_private (h : turn.GoesThrough settings grammar)
    (hprivate : turn.spec.isPrivate = true) :
    ∃ body stored, specBody settings turn.production turn.spec = .ok body ∧
      (turn.before.noting (privateWarning turn.spec)).addRule (modeName turn.canonical)
          (stateRule settings turn.kind turn.spec body turn.canonical (givenName turn.spec)
            turn.canonical) turn.kind
        = (turn.after, .ok stored) := by
  have hmapped := h.mapped
  rw [mapSpec] at hmapped
  split at hmapped
  · exact absurd (Prod.mk.inj hmapped).2 (by simp)
  · rename_i body hbody
    rcases mapStates_cons_ok (by simp) hmapped with ⟨mid, stored, hadded, hrest⟩
    rw [mapStates_private hprivate (by simp)] at hrest
    rcases Prod.mk.inj hrest with ⟨hmid, -⟩
    rw [← hmid]
    exact ⟨body, stored, hbody, hadded⟩

lemma Turn.GoesThrough.private_rulesIn (h : turn.GoesThrough settings grammar)
    (hprivate : turn.spec.isPrivate = true) (mode : String) :
    ∃ news, turn.after.lexer.rulesIn mode = turn.before.lexer.rulesIn mode ++ news ∧
      ∀ rule ∈ news, rule.isFragment = true := by
  rcases h.exists_private hprivate with ⟨body, stored, -, hadded⟩
  exact addRule_private (h.sound.noting _) hprivate hadded mode

/-- **A turn adds its rules at the end.** -/
lemma Turn.GoesThrough.rulesIn_grow (h : turn.GoesThrough settings grammar) (mode : String) :
    turn.before.lexer.rulesIn mode <+: turn.after.lexer.rulesIn mode := by
  cases hprivate : turn.spec.isPrivate with
  | true =>
      rcases h.private_rulesIn hprivate mode with ⟨news, hrules, -⟩
      rw [hrules]
      exact List.prefix_append _ _
  | false =>
      rcases h.exists_canonical hprivate with ⟨body, mid, -, hadded, hrest⟩
      have hsound := h.sound.noting (privateWarning turn.spec)
      have hfirst : turn.before.lexer.rulesIn mode <+: mid.lexer.rulesIn mode :=
        rulesIn_prefix_of_addRule hsound hadded
      exact hfirst.trans (rulesIn_prefix_of_mapStates hprivate mode _ _ mid
        (sound_addRule_public hsound hprivate hadded) hrest)

lemma Turn.GoesThrough.canonicalRule_mem (h : turn.GoesThrough settings grammar)
    (hpublic : turn.spec.isPrivate = false) {rule : Rule}
    (hrule : turn.canonicalRule? settings = some rule) :
    rule ∈ turn.after.lexer.rulesIn (modeName turn.canonical) := by
  rcases h.exists_canonical hpublic with ⟨body, mid, -, hadded, hrest⟩
  rw [hrule] at hadded
  have hsound := h.sound.noting (privateWarning turn.spec)
  have hstores := stores_of_adding hsound.indexed (Workspace.adding_of_addRule hadded)
  exact (rulesIn_prefix_of_mapStates hpublic _ _ _ mid
    (sound_addRule_public hsound hpublic hadded) hrest).subset hstores.settled.grows.mem

variable {accepts : Body → String → Prop}

/-- The rule in the canonical state has the commands of the state, whatever its name. -/
lemma commands_stateRule_canonical (settings : TokenSettings) (kind : ProductionKind)
    {spec : TokenSpec} (hpublic : spec.isPrivate = false) (body : Body)
    (canonical target target' : String) :
    (stateRule settings kind spec body canonical target canonical).commands
      = (stateRule settings kind spec body canonical target' canonical).commands := by
  rw [stateRule_canonical _ _ hpublic, stateRule_canonical _ _ hpublic]

/-- **The effect of a turn.**  A turn that concerns a state leaves a rule in its mode that serves
the body of the turn, and any other turn leaves the mode as it is, but for fragments. -/
theorem Turn.GoesThrough.effect (h : turn.GoesThrough settings grammar)
    (hletters : RespectsLetters accepts grammar)
    (hdefault : defaultMode ∉ turn.production.states)
    (hlabel : turn.spec.isPrivate = false → ∀ label, turn.spec.label? = some label →
      ¬PrivateName grammar (ruleName label))
    (hkept : turn.spec.isPrivate = false → (turn.canonicalRule? settings).isSome = true)
    (halias : turn.spec.isPrivate = false → ∀ rule, turn.canonicalRule? settings = some rule →
      ∀ state ∈ turn.production.states, ¬PrivateName grammar (ruleName (state ++ "_" ++ rule.name)))
    (hreferences : turn.spec.isPrivate = false → ∀ rule, turn.canonicalRule? settings = some rule →
      ∀ word, accepts (.text rule.name) word ↔ accepts rule.body word)
    {state : String} (hstate : state ≠ defaultMode) :
    turn.Effect accepts settings state (turn.before.lexer.rulesIn (modeName state))
      (turn.after.lexer.rulesIn (modeName state)) := by
  cases hprivate : turn.spec.isPrivate with
  | true =>
      rcases h.private_rulesIn hprivate (modeName state) with ⟨news, hrules, hfragments⟩
      refine .idle ?_ hrules hfragments
      rintro ⟨hpublic, -⟩
      rw [hprivate] at hpublic
      exact Bool.noConfusion hpublic
  | false =>
      rcases h.exists_canonical hprivate with ⟨body, mid, hbody, hadded, hrest⟩
      rcases Option.isSome_iff_exists.mp (hkept hprivate) with ⟨stored, hstored⟩
      rw [hstored] at hadded hrest
      have hnotdefault : ∀ other ∈ turn.production.states, other ≠ defaultMode := by
        rintro other hother rfl
        exact hdefault hother
      have hsound := h.sound.noting (privateWarning turn.spec)
      obtain ⟨hframe, hserves⟩ :=
        addRule_canonical hsound hletters hprivate h.spec_mem_specs (hlabel hprivate) hadded
      obtain ⟨hunlisted, hlisted⟩ := mapStates_aliases hletters hprivate _ mid
        (sound_addRule_public hsound hprivate hadded) (by
          intro other hother
          rcases List.mem_filter.mp hother with ⟨hmem, hne⟩
          exact ⟨of_decide_eq_true hne, hnotdefault other hmem,
            halias hprivate stored hstored other hmem⟩)
        hrest state hstate
      by_cases hcanonical : state = turn.canonical
      · -- the other states leave the canonical one alone
        subst hcanonical
        have hcommands := commands_stateRule_canonical settings turn.kind hprivate body
          turn.canonical (givenName turn.spec) stored.name
        have hgrows := hserves.grows.of_rule hcommands
          (by rw [isFragment_stateRule, isFragment_stateRule])
        rw [hunlisted (by simp)]
        exact .served ⟨hprivate, h.canonical_mem⟩ hbody hstored
          ⟨hgrows, hserves.isToken, hserves.accepts_iff⟩
      · have hmode : modeName state ≠ modeName turn.canonical := fun hc =>
          hcanonical (modeName_injective hstate (hnotdefault _ h.canonical_mem) hc)
        rw [hframe (modeName state) hmode] at hunlisted hlisted
        by_cases hmem : state ∈ turn.production.states
        · obtain ⟨added, -, haddedserves⟩ :=
            hlisted (List.mem_filter.mpr ⟨hmem, decide_eq_true hcanonical⟩)
          refine .served ⟨hprivate, hmem⟩ hbody hstored
            ⟨haddedserves.grows, haddedserves.isToken, ?_⟩
          intro word
          calc accepts added.body word
              ↔ accepts (.text stored.name) word := haddedserves.accepts_iff word
            _ ↔ accepts stored.body word := hreferences hprivate stored hstored word
            _ ↔ accepts body word := hserves.accepts_iff word
        · have hrules : turn.after.lexer.rulesIn (modeName state)
              = turn.before.lexer.rulesIn (modeName state) ++ [] := by
            rw [hunlisted fun hc => hmem (List.mem_filter.mp hc).1, List.append_nil]
            rfl
          exact .idle (fun hconcerns => hmem hconcerns.2) hrules (by simp)

end Effect

end GrammarConversion.Conversion
