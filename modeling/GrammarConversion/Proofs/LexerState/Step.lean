import Mathlib.Tactic.Lemma
import GrammarConversion.Conversion.Grammar

/-!
# Steps of a conversion, one after another

The lexer of a grammar is built by steps that may fail: a rule is added, a token is mapped to its
states, a literal is promoted, a production is converted.  Wherever one step follows another, the
second one is taken if the first one has gone through, and from the workspace that it has left
(`andThen`).

The equations of this module say so for each function that goes through a list, so that what holds
of two steps in a row need only be shown once.  Such a function is **sequential**: it goes through a
list in the same way in one piece or in several, and its failure is that of the first member that
fails (`Sequential.exists_of_error`).
-/

namespace GrammarConversion.Conversion

open Antlr
open Model

/-- **A step, and the next one** if it has gone through. -/
def andThen {α β : Type} (step : Step α) (next : α → Workspace → Step β) : Step β :=
  match step with
  | (space, .error failure) => (space, .error failure)
  | (space, .ok result) => next result space

/-- Adds the rules for a token production, explicit or not. -/
def convertProduction (settings : TokenSettings) (production : TokenProduction)
    (space : Workspace) : Step Unit :=
  if production.isExplicit then mapProduction settings production space
  else promoteLiterals settings production space

section Equations

variable {settings : TokenSettings} {production : TokenProduction} {kind : ProductionKind}
  {spec : TokenSpec} {body : Body} {canonical target state : String} {states : List String}
  {specs : List TokenSpec} {productions : List TokenProduction} {space : Workspace}

lemma mapStates_cons :
    mapStates settings kind spec body canonical (state :: states) target space
      = if spec.isPrivate && state ≠ canonical then
          mapStates settings kind spec body canonical states target space
        else
          andThen ((space.noting (privateWarning spec)).addRule (modeName state)
              (stateRule settings kind spec body canonical target state) kind)
            fun stored => mapStates settings kind spec body canonical states
              (if state = canonical then (stored.map Rule.name).getD target else target) := by
  rw [mapStates]
  dsimp only
  generalize (space.noting (privateWarning spec)).addRule (modeName state)
    (stateRule settings kind spec body canonical target state) kind = step
  rcases step with ⟨mid, failure | stored⟩ <;> rfl

lemma mapSpecs_cons :
    mapSpecs settings production kind canonical states (spec :: specs) space
      = andThen (mapSpec settings production kind canonical states spec space)
          fun _ => mapSpecs settings production kind canonical states specs := by
  rw [mapSpecs]
  rcases mapSpec settings production kind canonical states spec space with ⟨mid, failure | _⟩ <;> rfl

/-- A literal that no token rule matches yet gets a rule. -/
lemma promoteSpecs_cons (hbody : specBody settings production spec = .ok body) :
    promoteSpecs settings production (spec :: specs) space
      = if (space.lexer.ruleForBody? body).isSome then
          promoteSpecs settings production specs space
        else
          andThen ((space.noting [⟨.debug, "lexer_mapper",
                "promoting literal " ++ body.shown ++ " to a token rule"⟩]).addRule defaultMode
              { name := (spec.label?.map ruleName).getD "", body := body } .token)
            fun _ => promoteSpecs settings production specs := by
  rw [promoteSpecs, hbody]
  dsimp only
  cases space.lexer.ruleForBody? body with
  | some found => rfl
  | none =>
      dsimp only
      generalize (space.noting _).addRule _ _ _ = step
      rcases step with ⟨mid, failure | stored⟩ <;> rfl

lemma convertTokenProductions_cons :
    convertTokenProductions settings (production :: productions) space
      = andThen (convertProduction settings production space)
          fun _ => convertTokenProductions settings productions := by
  rw [convertTokenProductions]
  rw [← convertProduction]
  rcases convertProduction settings production space with ⟨mid, failure | _⟩ <;> rfl

end Equations

/-! ## Lists in several pieces -/

/-- **A function that goes through a list,** member by member and up to the first failure. -/
structure Sequential {α : Type} (run : List α → Workspace → Step Unit) : Prop where
  nil : ∀ space, run [] space = (space, .ok ())
  cons : ∀ first others space,
    run (first :: others) space = andThen (run [first] space) fun _ => run others

section Sequences

variable {α : Type} {run : List α → Workspace → Step Unit} {first : α} {earlier later : List α}
  {space mid : Workspace} {failure : Failure}

lemma andThen_done {step : Step Unit} (h : ∀ space, run [] space = (space, .ok ())) :
    andThen step (fun _ => run []) = step := by
  rcases step with ⟨mid, failure | _⟩
  · rfl
  · exact h mid

lemma Sequential.of_step {step : α → Workspace → Step Unit}
    (hnil : ∀ space, run [] space = (space, .ok ()))
    (hcons : ∀ first others space,
      run (first :: others) space = andThen (step first space) fun _ => run others) :
    Sequential run := by
  refine ⟨hnil, fun first others space => ?_⟩
  rw [hcons, hcons, andThen_done hnil]

/-- **The first pieces come first.** -/
lemma Sequential.append (h : Sequential run) (earlier later : List α) :
    ∀ space, run (earlier ++ later) space = andThen (run earlier space) fun _ => run later := by
  induction earlier with
  | nil =>
      intro space
      rw [h.nil]
      rfl
  | cons first earlier ih =>
      intro space
      rw [List.cons_append, h.cons first (earlier ++ later), h.cons first earlier]
      rcases run [first] space with ⟨mid, failure | _⟩
      · rfl
      · exact ih mid

lemma Sequential.append_of_ok (h : Sequential run) (hearlier : run earlier space = (mid, .ok ())) :
    run (earlier ++ later) space = run later mid := by
  rw [h.append, hearlier]
  rfl

/-- A function that goes through a list passes a workspace between any two pieces of it. -/
lemma Sequential.of_append_ok {last : Workspace} (h : Sequential run)
    (hall : run (earlier ++ later) space = (last, .ok ())) :
    ∃ mid, run earlier space = (mid, .ok ()) ∧ run later mid = (last, .ok ()) := by
  rw [h.append] at hall
  rcases hearlier : run earlier space with ⟨mid, failure | _⟩
  · rw [hearlier] at hall
    cases hall
  · rw [hearlier] at hall
    exact ⟨mid, rfl, hall⟩

/-- **A failure is that of the first member that fails.** -/
lemma Sequential.exists_of_error (h : Sequential run) {members : List α}
    (herror : (run members space).2 = .error failure) :
    ∃ earlier member later mid, members = earlier ++ member :: later ∧
      run earlier space = (mid, .ok ()) ∧ (run [member] mid).2 = .error failure := by
  induction members generalizing space with
  | nil =>
      rw [h.nil] at herror
      cases herror
  | cons first members ih =>
      rw [h.cons] at herror
      rcases hfirst : run [first] space with ⟨mid, failure' | _⟩
      · rw [hfirst] at herror
        refine ⟨[], first, members, space, rfl, h.nil space, ?_⟩
        rw [hfirst]
        exact herror
      · rw [hfirst] at herror
        obtain ⟨earlier, member, later, last, rfl, hearlier, hmember⟩ := ih herror
        refine ⟨first :: earlier, member, later, last, rfl, ?_, hmember⟩
        rw [h.cons, hfirst]
        exact hearlier

lemma Sequential.error_of_member (h : Sequential run) {member : α}
    (hearlier : run earlier space = (mid, .ok ())) (hmember : (run [member] mid).2 = .error failure) :
    (run (earlier ++ member :: later) space).2 = .error failure := by
  rw [h.append_of_ok hearlier, h.cons member later]
  rcases hstep : run [member] mid with ⟨last, failure' | _⟩
  · rwa [hstep] at hmember
  · rw [hstep] at hmember
    cases hmember

end Sequences

end GrammarConversion.Conversion
