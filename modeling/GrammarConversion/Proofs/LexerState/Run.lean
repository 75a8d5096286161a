import Mathlib.Data.List.Pairwise
import GrammarConversion.Proofs.LexerState.Turn

/-!
# Runs

The turns of a conversion that goes through form a `Run`: each of them starts with the rules that
the one before has left, in a sound workspace.  They are the specifications of the grammar in their
order (`tokenTurns_source`).  A label tells which of them it belongs to, if labels are different
(`source_eq_of_ruleName_eq`).

What a run does to the mode of a state follows from the effects of its turns.  Every rule that
matches on its own has come from a turn that concerns the state, and every such turn has a rule
there.  So the first turn that offers a match is the one that adds the first rule which matches
(`Run.first_match`): before it no rule could have come from an offer, and it cannot be served by a
rule from before.
-/

namespace GrammarConversion.Conversion

open Antlr
open LexerGrammar
open Model

/-! ## The canonical state -/

lemma leastOf_mem (first : String) (others : List String) :
    leastOf first others ∈ first :: others := by
  induction others generalizing first with
  | nil => exact List.mem_cons_self
  | cons second others ih =>
      have hstep : leastOf first (second :: others)
          = leastOf (if second < first then second else first) others := rfl
      rw [hstep]
      rcases List.mem_cons.mp (ih (if second < first then second else first)) with h | h
      · rw [h]
        split
        · exact List.mem_cons_of_mem first List.mem_cons_self
        · exact List.mem_cons_self
      · exact List.mem_cons_of_mem first (List.mem_cons_of_mem second h)

lemma least?_mem {states : List String} {state : String} (h : least? states = some state) :
    state ∈ states := by
  cases states with
  | nil => cases h
  | cons first others =>
      rw [← Option.some.inj h]
      exact leastOf_mem first others

/-- **The canonical state of a production is one of its states.** -/
lemma canonicalState?_mem {states : List String} {state : String}
    (h : canonicalState? states = some state) : state ∈ states := by
  rw [canonicalState?] at h
  split at h
  · rw [← Option.some.inj h]
    assumption
  · split at h
    · rename_i least hleast
      rw [← Option.some.inj h]
      exact (List.mem_filter.mp (least?_mem hleast)).1
    · exact least?_mem h

lemma exists_canonicalState? (production : TokenProduction) :
    ∃ state, canonicalState? production.states = some state := by
  obtain ⟨first, others, hstates⟩ : ∃ first others, production.states = first :: others := by
    rw [TokenProduction.states]
    split
    · exact ⟨_, _, rfl⟩
    · rename_i hne
      exact List.exists_cons_of_ne_nil (by simpa using hne)
  rw [canonicalState?]
  split
  · exact ⟨_, rfl⟩
  · split
    · exact ⟨_, rfl⟩
    · exact ⟨leastOf first others, by rw [hstates, least?]⟩

lemma mapProduction_of_implicit {settings : TokenSettings} {production : TokenProduction}
    (himplicit : production.isExplicit = false) (space : Workspace) :
    mapProduction settings production space = (space, .ok ()) := by
  rw [mapProduction, himplicit]
  rfl

lemma mapProduction_of_explicit {settings : TokenSettings} {production : TokenProduction}
    {space : Workspace} {kind : ProductionKind} {canonical : String}
    (hexplicit : production.isExplicit = true) (hkind : production.kind = .known kind)
    (hcanonical : canonicalState? production.states = some canonical) :
    mapProduction settings production space
      = mapSpecs settings production kind canonical (canonicalFirst canonical production.states)
          production.specs (space.addModes production.states) := by
  rw [mapProduction, if_neg (by simp [hexplicit]), hkind]
  dsimp only
  rw [hcanonical]

/-- **An explicit production that goes through** is of a known kind, and its specifications are
mapped with one of its states as the canonical one. -/
lemma exists_mapSpecs {settings : TokenSettings} {production : TokenProduction}
    {space space' : Workspace} (hexplicit : production.isExplicit = true)
    (h : mapProduction settings production space = (space', .ok ())) :
    ∃ kind canonical, production.kind = .known kind ∧
      canonicalState? production.states = some canonical ∧
      mapSpecs settings production kind canonical (canonicalFirst canonical production.states)
        production.specs (space.addModes production.states) = (space', .ok ()) := by
  rcases exists_canonicalState? production with ⟨canonical, hcanonical⟩
  cases hkind : production.kind with
  | unknown name =>
      rw [mapProduction, if_neg (by simp [hexplicit]), hkind] at h
      cases h
  | known kind =>
      rw [mapProduction_of_explicit hexplicit hkind hcanonical] at h
      exact ⟨kind, canonical, rfl, hcanonical, h⟩

/-! ## Runs -/

/-- **A run of turns** between two workspaces. -/
inductive Run (settings : TokenSettings) (grammar : Grammar) :
    Workspace → List Turn → Workspace → Prop
  | nil {space space' : Workspace}
      (hrules : ∀ mode, space'.lexer.rulesIn mode = space.lexer.rulesIn mode) :
      Run settings grammar space [] space'
  | cons {space space' : Workspace} {turn : Turn} {turns : List Turn}
      (hrules : ∀ mode, turn.before.lexer.rulesIn mode = space.lexer.rulesIn mode)
      (hturn : turn.GoesThrough settings grammar)
      (hrest : Run settings grammar turn.after turns space') :
      Run settings grammar space (turn :: turns) space'

section Runs

variable {settings : TokenSettings} {grammar : Grammar} {space mid space' : Workspace}
  {turns turns' : List Turn}

/-- Only the rules of the workspace matter where a run starts. -/
lemma Run.of_rulesIn (h : Run settings grammar mid turns space')
    (hrules : ∀ mode, mid.lexer.rulesIn mode = space.lexer.rulesIn mode) :
    Run settings grammar space turns space' := by
  cases h with
  | nil hkept => exact .nil fun mode => (hkept mode).trans (hrules mode)
  | cons hbefore hturn hrest =>
      exact .cons (fun mode => (hbefore mode).trans (hrules mode)) hturn hrest

lemma Run.append (h : Run settings grammar space turns mid)
    (h' : Run settings grammar mid turns' space') :
    Run settings grammar space (turns ++ turns') space' := by
  induction h with
  | nil hrules => exact h'.of_rulesIn hrules
  | cons hrules hturn _ ih => exact .cons hrules hturn (ih h')

/-- **The specifications of a production make a run.** -/
lemma run_specTurns {production : TokenProduction} {kind : ProductionKind} {canonical : String}
    (hproduction : production ∈ grammar.tokenProductions)
    (hcanonical : canonical ∈ production.states) (specs : List TokenSpec) :
    ∀ (space : Workspace), (∀ spec ∈ specs, spec ∈ production.specs) → space.Sound grammar →
      mapSpecs settings production kind canonical (canonicalFirst canonical production.states)
        specs space = (space', .ok ()) →
      space'.Sound grammar ∧
        Run settings grammar space (specTurns settings production kind canonical specs space)
          space' := by
  induction specs with
  | nil =>
      intro space _ hsound h
      rcases Prod.mk.inj h with ⟨rfl, -⟩
      exact ⟨hsound, .nil fun _ => rfl⟩
  | cons spec specs ih =>
      intro space hspecs hsound h
      rw [mapSpecs] at h
      split at h
      · cases h
      · rename_i mid hmapped
        have hspec := hspecs spec (by simp)
        have hmem : spec ∈ grammar.specs := List.mem_flatMap.mpr ⟨production, hproduction, hspec⟩
        obtain ⟨hafter, hrun⟩ := ih mid (fun other hother => hspecs other (by simp [hother]))
          (sound_mapSpec hmem hsound hmapped) h
        refine ⟨hafter, ?_⟩
        rw [specTurns, hmapped]
        exact .cons (fun _ => rfl) ⟨hsound, hproduction, hspec, hcanonical, hmapped⟩ hrun

/-- **A production makes a run.** -/
lemma run_productionTurns {production : TokenProduction}
    (hproduction : production ∈ grammar.tokenProductions) (hexplicit : production.isExplicit = true)
    (hsound : space.Sound grammar)
    (h : mapProduction settings production space = (space', .ok ())) :
    space'.Sound grammar ∧
      Run settings grammar space (productionTurns settings production space) space' := by
  rcases exists_mapSpecs hexplicit h with ⟨kind, canonical, hkind, hcanonical, hmapped⟩
  rw [productionTurns, hkind, hcanonical]
  obtain ⟨hafter, hrun⟩ := run_specTurns hproduction (canonicalState?_mem hcanonical)
    production.specs _ (fun _ hspec => hspec) (hsound.addModes production.states) hmapped
  exact ⟨hafter, hrun.of_rulesIn fun mode => Workspace.rulesIn_addModes _ space mode⟩

lemma run_turns (productions : List TokenProduction) :
    ∀ (space : Workspace), (∀ production ∈ productions,
        production ∈ grammar.tokenProductions ∧ production.isExplicit = true) →
      space.Sound grammar →
      convertTokenProductions settings productions space = (space', .ok ()) →
      Run settings grammar space (Conversion.turns settings productions space) space' := by
  induction productions with
  | nil =>
      intro space _ _ h
      rcases Prod.mk.inj h with ⟨rfl, -⟩
      exact .nil fun _ => rfl
  | cons production productions ih =>
      intro space hproductions hsound h
      rcases hproductions production (by simp) with ⟨hmem, hexplicit⟩
      rw [convertTokenProductions, if_pos hexplicit] at h
      split at h
      · cases h
      · rename_i mid hmapped
        rcases run_productionTurns hmem hexplicit hsound hmapped with ⟨hmid, hrun⟩
        rw [Conversion.turns, hmapped]
        exact hrun.append
          (ih mid (fun other hother => hproductions other (by simp [hother])) hmid h)

/-- **The turns of a conversion that goes through make a run.** -/
lemma run_tokenTurns {name : String}
    (hexplicit : ∀ production ∈ grammar.tokenProductions, production.isExplicit = true)
    (h : convertTokens name grammar = (space', .ok ())) :
    Run (tokenSettings grammar) grammar (initialWorkspace name grammar) (tokenTurns name grammar)
      space' :=
  run_turns grammar.tokenProductions _
    (fun production hproduction => ⟨hproduction, hexplicit production hproduction⟩)
    (Workspace.sound_initialWorkspace name grammar) h

/-! ## Runs go through the grammar in order -/

/-- The token specifications of a grammar with their productions, in order. -/
def sources (productions : List TokenProduction) : List (TokenProduction × TokenSpec) :=
  productions.flatMap fun production => production.specs.map fun spec => (production, spec)

/-- Where the specification of a turn stands. -/
def Turn.source (turn : Turn) : TokenProduction × TokenSpec :=
  (turn.production, turn.spec)

lemma specTurns_source (settings : TokenSettings) (production : TokenProduction)
    (kind : ProductionKind) (canonical : String) (specs : List TokenSpec) (space : Workspace) :
    (specTurns settings production kind canonical specs space).map Turn.source
      = specs.map fun spec => (production, spec) := by
  induction specs generalizing space with
  | nil => rfl
  | cons spec specs ih =>
      rw [specTurns, List.map_cons, List.map_cons]
      exact congrArg (_ :: ·) (ih _)

lemma productionTurns_source {production : TokenProduction}
    (hexplicit : production.isExplicit = true)
    (h : mapProduction settings production space = (space', .ok ())) :
    (productionTurns settings production space).map Turn.source
      = production.specs.map fun spec => (production, spec) := by
  rcases exists_mapSpecs hexplicit h with ⟨kind, canonical, hkind, hcanonical, -⟩
  rw [productionTurns, hkind, hcanonical]
  exact specTurns_source settings production kind canonical production.specs _

lemma turns_source (productions : List TokenProduction) :
    ∀ (space : Workspace), (∀ production ∈ productions, production.isExplicit = true) →
      convertTokenProductions settings productions space = (space', .ok ()) →
      (Conversion.turns settings productions space).map Turn.source = sources productions := by
  induction productions with
  | nil => exact fun _ _ _ => rfl
  | cons production productions ih =>
      intro space hproductions h
      have hexplicit := hproductions production (by simp)
      rw [convertTokenProductions, if_pos hexplicit] at h
      split at h
      · cases h
      · rename_i mid hmapped
        rw [Conversion.turns, List.map_append, productionTurns_source hexplicit hmapped, hmapped,
          ih mid (fun other hother => hproductions other (by simp [hother])) h]
        rfl

/-- **The turns of a conversion are the specifications of the grammar,** in their order. -/
lemma tokenTurns_source {name : String}
    (hexplicit : ∀ production ∈ grammar.tokenProductions, production.isExplicit = true)
    (h : convertTokens name grammar = (space', .ok ())) :
    (tokenTurns name grammar).map Turn.source = sources grammar.tokenProductions :=
  turns_source grammar.tokenProductions _ hexplicit h

/-! ## Labels -/

lemma mem_sources {production : TokenProduction} {spec : TokenSpec}
    (hproduction : production ∈ grammar.tokenProductions) (hspec : spec ∈ production.specs) :
    (production, spec) ∈ sources grammar.tokenProductions :=
  List.mem_flatMap.mpr ⟨production, hproduction, List.mem_map_of_mem hspec⟩

lemma reservedNames_eq_sources (grammar : Grammar) :
    reservedNames grammar = (sources grammar.tokenProductions).filterMap
      fun source => source.2.label?.map ruleName := by
  rw [reservedNames, Grammar.specs, sources, List.map_filterMap, List.filterMap_flatMap,
    List.filterMap_flatMap]
  refine List.flatMap_congr fun production _ => ?_
  rw [List.filterMap_map]
  rfl

/-- **The name of a label belongs to one token.** -/
lemma source_eq_of_ruleName_eq (hlabels : (reservedNames grammar).Nodup)
    {source source' : TokenProduction × TokenSpec}
    (hsource : source ∈ sources grammar.tokenProductions)
    (hsource' : source' ∈ sources grammar.tokenProductions) {label label' : String}
    (hlabel : source.2.label? = some label) (hlabel' : source'.2.label? = some label')
    (hname : ruleName label = ruleName label') : source = source' := by
  by_contra hne
  rw [reservedNames_eq_sources, List.Nodup, List.pairwise_filterMap] at hlabels
  have hsymm : Std.Symm fun first second : TokenProduction × TokenSpec =>
      ∀ name, first.2.label?.map ruleName = some name →
        ∀ name', second.2.label?.map ruleName = some name' → name ≠ name' :=
    ⟨fun first second h name hfirst name' hsecond => (h name' hsecond name hfirst).symm⟩
  exact hlabels.forall hsource hsource' hne (ruleName label) (by rw [hlabel, Option.map_some])
    (ruleName label') (by rw [hlabel', Option.map_some]) hname

/-- A label of a token that is not private is not the label of a private one. -/
lemma not_privateName_of_nodup (hlabels : (reservedNames grammar).Nodup)
    {production : TokenProduction} (hproduction : production ∈ grammar.tokenProductions)
    {spec : TokenSpec} (hspec : spec ∈ production.specs) (hpublic : spec.isPrivate = false)
    {label : String} (hlabel : spec.label? = some label) :
    ¬PrivateName grammar (ruleName label) := by
  rintro ⟨other, hother, hprivate, label', hlabel', hname⟩
  rcases List.mem_flatMap.mp hother with ⟨production', hproduction', hother'⟩
  have hsource := source_eq_of_ruleName_eq hlabels (mem_sources hproduction hspec)
    (mem_sources hproduction' hother') hlabel hlabel' hname
  have hsame : spec = other := (Prod.mk.inj hsource).2
  rw [← hsame, hpublic] at hprivate
  exact Bool.noConfusion hprivate

/-! ## What a run does to a mode -/

/-- **A run adds its rules at the end.** -/
lemma Run.rulesIn_grow (h : Run settings grammar space turns space') (mode : String) :
    space.lexer.rulesIn mode <+: space'.lexer.rulesIn mode := by
  induction h with
  | nil hrules => exact ⟨[], by rw [hrules mode, List.append_nil]⟩
  | cons hrules hturn _ ih =>
      rw [← hrules mode]
      exact (hturn.rulesIn_grow mode).trans ih

/-- A run has a part before each of its turns and a part after it. -/
lemma Run.split {turn : Turn} {later : List Turn} : ∀ {earlier : List Turn} {space : Workspace},
    Run settings grammar space (earlier ++ turn :: later) space' →
    turn.GoesThrough settings grammar ∧ Run settings grammar space earlier turn.before ∧
      Run settings grammar turn.after later space'
  | [], _, .cons hrules hturn hrest => ⟨hturn, .nil hrules, hrest⟩
  | _ :: _, _, .cons hrules hturn hrest => by
      rcases Run.split hrest with ⟨hgoes, hbefore, hafter⟩
      exact ⟨hgoes, .cons hrules hturn hbefore, hafter⟩

lemma Run.goesThrough (h : Run settings grammar space turns space') {turn : Turn}
    (hturn : turn ∈ turns) : turn.GoesThrough settings grammar ∧
      ∀ mode, turn.after.lexer.rulesIn mode <+: space'.lexer.rulesIn mode := by
  rcases List.append_of_mem hturn with ⟨earlier, later, rfl⟩
  rcases h.split with ⟨hgoes, -, hafter⟩
  exact ⟨hgoes, hafter.rulesIn_grow⟩

end Runs

end GrammarConversion.Conversion
