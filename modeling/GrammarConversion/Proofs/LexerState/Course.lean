import GrammarConversion.Proofs.LexerState.Moves

/-!
# The course of a conversion

A grammar has explicit token productions and literals of BNF productions, in any order.  The
specifications of the former take their turns (`explicitTokenTurns`); between two turns, literals
may get rules of their own.  A `Course` is made of both: turns, and additions of plain rules to the
default mode.

**`course_convertTokens`: every conversion that goes through is a course,** and its turns are those
of the explicit productions.  No rule is lost on the way, so what a turn has left behind is in the
finished lexer (`Course.goesThrough`).
-/

namespace GrammarConversion.Conversion

open Antlr
open LexerGrammar
open Model

/-! ## Turns among other productions -/

/-- The turns of the explicit ones of several token productions. -/
def explicitTurns (settings : TokenSettings) : List TokenProduction → Workspace → List Turn
  | [], _ => []
  | production :: productions, space =>
    if production.isExplicit then
      productionTurns settings production space
        ++ explicitTurns settings productions (mapProduction settings production space).1
    else explicitTurns settings productions (promoteLiterals settings production space).1

/-- **The turns of the explicit token productions** in the conversion of a grammar. -/
def explicitTokenTurns (name : String) (grammar : Grammar) : List Turn :=
  explicitTurns (tokenSettings grammar) grammar.tokenProductions (initialWorkspace name grammar)

/-- **A course of a conversion** between two workspaces, with its turns. -/
inductive Course (grammar : Grammar) : Workspace → List Turn → Workspace → Prop
  | done {space space' : Workspace}
      (hrules : ∀ mode, space'.lexer.rulesIn mode = space.lexer.rulesIn mode) :
      Course grammar space [] space'
  /-- A token of an explicit production has its turn. -/
  | turned {space space' : Workspace} {turn : Turn} {turns : List Turn}
      (hrules : ∀ mode, turn.before.lexer.rulesIn mode = space.lexer.rulesIn mode)
      (hturn : turn.GoesThrough (tokenSettings grammar) grammar)
      (hrest : Course grammar turn.after turns space') :
      Course grammar space (turn :: turns) space'
  /-- A literal gets a rule. -/
  | promoted {space before after space' : Workspace} {name : String} {body : Body}
      {result : Option Rule} {turns : List Turn}
      (hrules : ∀ mode, before.lexer.rulesIn mode = space.lexer.rulesIn mode)
      (hsound : before.Sound grammar)
      (hadded : before.addRule defaultMode { name := name, body := body } .token
        = (after, .ok result))
      (hrest : Course grammar after turns space') : Course grammar space turns space'

section Courses

variable {grammar : Grammar} {space mid space' : Workspace} {turns later : List Turn}

/-! ## Building a course -/

/-- Only the rules of the workspace matter where a course starts. -/
lemma Course.of_rulesIn (h : Course grammar mid turns space')
    (hrules : ∀ mode, mid.lexer.rulesIn mode = space.lexer.rulesIn mode) :
    Course grammar space turns space' := by
  cases h with
  | done hkept => exact .done fun mode => (hkept mode).trans (hrules mode)
  | turned hbefore hturn hrest =>
      exact .turned (fun mode => (hbefore mode).trans (hrules mode)) hturn hrest
  | promoted hbefore hsound hadded hrest =>
      exact .promoted (fun mode => (hbefore mode).trans (hrules mode)) hsound hadded hrest

/-- A run of turns may come first. -/
lemma Run.course (h : Run (tokenSettings grammar) grammar space turns mid)
    (hrest : Course grammar mid later space') : Course grammar space (turns ++ later) space' := by
  induction h with
  | nil hrules => exact hrest.of_rulesIn hrules
  | cons hrules hturn _ ih => exact .turned hrules hturn (ih hrest)

/-- Literals may come first, and add no turns. -/
lemma course_promoteSpecs {production : TokenProduction} (specs : List TokenSpec) :
    ∀ (space : Workspace), space.Sound grammar →
      promoteSpecs (tokenSettings grammar) production specs space = (mid, .ok ()) →
      mid.Sound grammar ∧
        (Course grammar mid turns space' → Course grammar space turns space') := by
  induction specs with
  | nil =>
      intro space hsound h
      rcases Prod.mk.inj h with ⟨rfl, -⟩
      exact ⟨hsound, id⟩
  | cons spec specs ih =>
      intro space hsound h
      rcases promoteSpecs_cons_ok h with
        ⟨body, -, ⟨found, -, hrest⟩ | ⟨-, records, after, stored, hadded, hrest⟩⟩
      · exact ih space hsound hrest
      · have hnoted := hsound.noting records
        have hafter : after.Sound grammar :=
          hnoted.addRule (fun hfragment => Bool.noConfusion hfragment) hadded
        have hrules : ∀ mode, (space.noting records).lexer.rulesIn mode
            = space.lexer.rulesIn mode := fun _ => rfl
        rcases ih after hafter hrest with ⟨hmid, hcourse⟩
        exact ⟨hmid, fun hlater => .promoted hrules hnoted hadded (hcourse hlater)⟩

lemma course_convertTokenProductions (productions : List TokenProduction) :
    ∀ (space : Workspace), (∀ production ∈ productions, production ∈ grammar.tokenProductions) →
      space.Sound grammar →
      convertTokenProductions (tokenSettings grammar) productions space = (space', .ok ()) →
      Course grammar space (explicitTurns (tokenSettings grammar) productions space) space' := by
  induction productions with
  | nil =>
      intro space _ _ h
      rcases Prod.mk.inj h with ⟨rfl, -⟩
      exact .done fun _ => rfl
  | cons production productions ih =>
      intro space hproductions hsound h
      have hlater : ∀ other ∈ productions, other ∈ grammar.tokenProductions := fun other hother =>
        hproductions other (by simp [hother])
      rw [convertTokenProductions] at h
      rw [explicitTurns]
      split at h
      · cases h
      · rename_i mid hstep
        by_cases hexplicit : production.isExplicit = true
        · rw [if_pos hexplicit] at hstep
          rcases run_productionTurns (hproductions production (by simp)) hexplicit hsound hstep with
            ⟨hmid, hrun⟩
          rw [if_pos hexplicit, hstep]
          exact hrun.course (ih mid hlater hmid h)
        · rw [if_neg hexplicit] at hstep
          rw [if_neg hexplicit, hstep]
          rcases course_promoteSpecs production.specs space hsound hstep with ⟨hmid, hcourse⟩
          exact hcourse (ih mid hlater hmid h)

/-- **A conversion that goes through is a course.** -/
lemma course_convertTokens {name : String} (h : convertTokens name grammar = (space', .ok ())) :
    Course grammar (initialWorkspace name grammar) (explicitTokenTurns name grammar) space' :=
  course_convertTokenProductions grammar.tokenProductions _ (fun _ hmem => hmem)
    (Workspace.sound_initialWorkspace name grammar) h

/-! ## The turns of a course -/

lemma explicitTurns_source (settings : TokenSettings) (productions : List TokenProduction) :
    ∀ (space : Workspace), convertTokenProductions settings productions space = (space', .ok ()) →
      (explicitTurns settings productions space).map Turn.source
        = sources (productions.filter TokenProduction.isExplicit) := by
  induction productions with
  | nil => exact fun _ _ => rfl
  | cons production productions ih =>
      intro space h
      rw [convertTokenProductions] at h
      rw [explicitTurns]
      split at h
      · cases h
      · rename_i mid hstep
        by_cases hexplicit : production.isExplicit = true
        · rw [if_pos hexplicit] at hstep
          rw [if_pos hexplicit, List.filter_cons_of_pos hexplicit, List.map_append,
            productionTurns_source hexplicit hstep, hstep, ih mid h]
          rfl
        · rw [if_neg hexplicit] at hstep
          rw [if_neg hexplicit, List.filter_cons_of_neg hexplicit, hstep, ih mid h]

/-- **The turns are the specifications of the explicit productions,** in their order. -/
lemma explicitTokenTurns_source {name : String}
    (h : convertTokens name grammar = (space', .ok ())) :
    (explicitTokenTurns name grammar).map Turn.source
      = sources (grammar.tokenProductions.filter TokenProduction.isExplicit) :=
  explicitTurns_source (tokenSettings grammar) grammar.tokenProductions _ h

lemma mem_specTurns {settings : TokenSettings} {production : TokenProduction}
    {kind : ProductionKind} {canonical : String} {turn : Turn} (specs : List TokenSpec) :
    ∀ (space : Workspace), turn ∈ specTurns settings production kind canonical specs space →
      turn.production = production ∧ turn.kind = kind ∧ turn.canonical = canonical := by
  induction specs with
  | nil => exact fun _ h => absurd h List.not_mem_nil
  | cons spec specs ih =>
      intro space h
      rcases List.mem_cons.mp h with rfl | h
      · exact ⟨rfl, rfl, rfl⟩
      · exact ih _ h

/-- **A turn has the kind and the canonical state of its production.** -/
lemma mem_productionTurns {settings : TokenSettings} {production : TokenProduction} {turn : Turn}
    (h : turn ∈ productionTurns settings production space) :
    turn.production.kind = .known turn.kind ∧
      canonicalState? turn.production.states = some turn.canonical := by
  rw [productionTurns] at h
  split at h
  · rename_i kind canonical hkind hcanonical
    rcases mem_specTurns _ _ h with ⟨hproduction, hturnkind, hturncanonical⟩
    rw [hproduction, hturnkind, hturncanonical]
    exact ⟨hkind, hcanonical⟩
  · exact absurd h List.not_mem_nil

lemma mem_explicitTurns {settings : TokenSettings} {turn : Turn}
    (productions : List TokenProduction) :
    ∀ (space : Workspace), turn ∈ explicitTurns settings productions space →
      turn.production.kind = .known turn.kind ∧
        canonicalState? turn.production.states = some turn.canonical := by
  induction productions with
  | nil => exact fun _ h => absurd h List.not_mem_nil
  | cons production productions ih =>
      intro space h
      rw [explicitTurns] at h
      split at h
      · rcases List.mem_append.mp h with h | h
        · exact mem_productionTurns h
        · exact ih _ h
      · exact ih _ h

/-! ## What a course leaves behind -/

/-- **A course adds its rules at the end.** -/
lemma Course.rulesIn_grow (h : Course grammar space turns space') (mode : String) :
    space.lexer.rulesIn mode <+: space'.lexer.rulesIn mode := by
  induction h with
  | done hrules => exact ⟨[], by rw [hrules mode, List.append_nil]⟩
  | turned hrules hturn _ ih =>
      rw [← hrules mode]
      exact (hturn.rulesIn_grow mode).trans ih
  | promoted hrules hsound hadded _ ih =>
      rw [← hrules mode]
      exact (rulesIn_prefix_of_addRule hsound hadded).trans ih

/-- **What a turn of a course has left behind stays there.** -/
lemma Course.goesThrough (h : Course grammar space turns space') {turn : Turn}
    (hturn : turn ∈ turns) : turn.GoesThrough (tokenSettings grammar) grammar ∧
      ∀ mode, turn.after.lexer.rulesIn mode <+: space'.lexer.rulesIn mode := by
  induction h with
  | done => exact absurd hturn List.not_mem_nil
  | turned _ hgoes hrest ih =>
      rcases List.mem_cons.mp hturn with rfl | hlater
      · exact ⟨hgoes, hrest.rulesIn_grow⟩
      · exact ih hlater
  | promoted _ _ _ _ ih => exact ih hturn

end Courses

end GrammarConversion.Conversion
