import GrammarConversion.Proofs.LexerGrammar.Alike
import GrammarConversion.Proofs.LexerState.Promotion
import GrammarConversion.Proofs.LexerState.Step

/-!
# A production at the end of a grammar

Names are reserved before the first production is converted, and for the labels of all productions.
So a production at the end reaches back to the beginning: a label of it could take a generated name
away from an earlier token.  A label that no supply could give takes nothing away.

The conversions with and without that production then go **in step** (`Workspace.InStep`): they have
the same lexer all the time, and supplies that have counted equally far and agree on which generated
names are reserved (`Agrees`), though not on all reserved names.  Every kind of step keeps that,
and has the same result in both conversions (`SameStep`).

**`rulesIn_prefix_of_extended`: a production at the end only adds rules,** behind those that
there are without it.
-/

namespace GrammarConversion.Model

/-- A grammar with one more production at the end. -/
def Grammar.extended (grammar : Grammar) (production : TokenProduction) : Grammar :=
  { grammar with tokenProductions := grammar.tokenProductions ++ [production] }

end GrammarConversion.Model

namespace GrammarConversion.Conversion

open Antlr
open LexerGrammar
open Model
open NameSupply

/-! ## Supplies that agree -/

namespace NameSupply

/-- **Whether two supplies agree:** they have counted equally far, and of the names that they could
give they reserve the same ones. -/
structure Agrees (supply supply' : NameSupply) : Prop where
  counters : supply'.counters = supply.counters
  reserved : ∀ kind number,
    numbered kind number ∈ supply'.reserved ↔ numbered kind number ∈ supply.reserved

section Agreeing

variable {supply supply' : NameSupply}

lemma freeNumber_le {reserved reserved' : List String} {kind : ProductionKind}
    (h : ∀ number, numbered kind number ∈ reserved → numbered kind number ∈ reserved')
    (number : Nat) :
    freeNumber reserved kind reserved.length number
      ≤ freeNumber reserved' kind reserved'.length number := by
  by_contra hlater
  -- the number that is free later on has been passed over, so its name is reserved
  have hpassed := mem_reserved_of_lt_freeNumber _ _ _
    (le_freeNumber reserved' kind reserved'.length number) (Nat.not_le.mp hlater)
  exact freeNumber_notMem reserved' kind number (h _ hpassed)

/-- **Supplies that agree give the same name.** -/
lemma Agrees.next (h : supply.Agrees supply') (kind : ProductionKind) :
    (supply'.next kind).1 = (supply.next kind).1 ∧
      (supply.next kind).2.Agrees (supply'.next kind).2 := by
  have hnumber : freeNumber supply'.reserved kind supply'.reserved.length (supply'.counters kind)
      = freeNumber supply.reserved kind supply.reserved.length (supply.counters kind) := by
    rw [h.counters]
    exact Nat.le_antisymm (freeNumber_le (fun number => (h.reserved kind number).mp) _)
      (freeNumber_le (fun number => (h.reserved kind number).mpr) _)
  refine ⟨congrArg (numbered kind) hnumber, ?_, h.reserved⟩
  show (fun other => if other = kind then _ else _) = fun other => if other = kind then _ else _
  rw [hnumber, h.counters]

lemma Agrees.drawUnused (kind : ProductionKind) (taken : String → Bool) :
    ∀ (more : Nat) (supply supply' : NameSupply), supply.Agrees supply' →
      (LexerGrammar.drawUnused (fun names => names.next kind) taken more supply').1
          = (LexerGrammar.drawUnused (fun names => names.next kind) taken more supply).1 ∧
        (LexerGrammar.drawUnused (fun names => names.next kind) taken more supply).2.Agrees
          (LexerGrammar.drawUnused (fun names => names.next kind) taken more supply').2
  | 0, _, _, h => h.next kind
  | more + 1, supply, supply', h => by
      rcases h.next kind with ⟨hname, hagrees⟩
      rw [LexerGrammar.drawUnused, LexerGrammar.drawUnused, hname]
      split
      · exact Agrees.drawUnused kind taken more _ _ hagrees
      · exact ⟨hname, hagrees⟩

end Agreeing

end NameSupply

/-! ## Workspaces in step -/

/-- **Whether two workspaces are in step.** -/
structure Workspace.InStep (space space' : Workspace) : Prop where
  lexer : space'.lexer = space.lexer
  names : space.names.Agrees space'.names

/-- **Whether two steps have the same result,** and leave workspaces that are in step. -/
structure SameStep {α : Type} (step step' : Step α) : Prop where
  inStep : step.1.InStep step'.1
  result : step'.2 = step.2

section Steps

variable {settings : TokenSettings} {production : TokenProduction} {kind : ProductionKind}
  {spec : TokenSpec} {body : Body} {canonical : String} {space space' : Workspace}

lemma Workspace.InStep.noting (h : space.InStep space') (records : List LogRecord) :
    (space.noting records).InStep (space'.noting records) :=
  ⟨h.lexer, h.names⟩

lemma Workspace.InStep.addModes (h : space.InStep space') (states : List String) :
    (space.addModes states).InStep (space'.addModes states) := by
  refine ⟨?_, h.names⟩
  rw [Workspace.addModes, Workspace.addModes, h.lexer]

lemma SameStep.error (h : space.InStep space') {α : Type} (failure : Failure) :
    SameStep (α := α) (space, .error failure) (space', .error failure) :=
  ⟨h, rfl⟩

/-- **What comes after steps with the same result** has the same result. -/
lemma SameStep.andThen {α β : Type} {step step' : Step α} {next next' : α → Workspace → Step β}
    (h : SameStep step step')
    (hnext : ∀ result space space', space.InStep space' →
      SameStep (next result space) (next' result space')) :
    SameStep (Conversion.andThen step next) (Conversion.andThen step' next') := by
  rcases step with ⟨mid, result⟩
  rcases step' with ⟨mid', result'⟩
  obtain rfl : result' = result := h.result
  cases result' with
  | error failure => exact .error h.inStep failure
  | ok result => exact hnext result mid mid' h.inStep

/-- **Adding a rule.**  Only a rule without a name asks the supply. -/
lemma Workspace.InStep.addRule (h : space.InStep space') (mode : String) (rule : Rule)
    (kind : ProductionKind) :
    SameStep (space.addRule mode rule kind) (space'.addRule mode rule kind) := by
  rw [Workspace.addRule, Workspace.addRule, h.lexer]
  unfold LexerGrammar.addRule
  dsimp only
  split
  · exact ⟨⟨rfl, h.names⟩, rfl⟩
  · split
    · exact ⟨⟨rfl, h.names⟩, rfl⟩
    · have hdrawn := Agrees.drawUnused kind
        (fun name => ((space.lexer.addMode mode).ruleNamed? name).isSome)
        (space.lexer.addMode mode).rules.length _ _ h.names
      dsimp only
      rw [hdrawn.1]
      exact ⟨⟨rfl, hdrawn.2⟩, rfl⟩

lemma Workspace.InStep.mapStates (states : List String) :
    ∀ (target : String) (space space' : Workspace), space.InStep space' →
      SameStep (mapStates settings kind spec body canonical states target space)
        (mapStates settings kind spec body canonical states target space') := by
  induction states with
  | nil => exact fun _ _ _ h => ⟨h, rfl⟩
  | cons state states ih =>
      intro target space space' h
      rw [mapStates_cons, mapStates_cons]
      split
      · exact ih target space space' h
      · exact ((h.noting _).addRule _ _ kind).andThen fun _ _ _ hmid => ih _ _ _ hmid

lemma Workspace.InStep.mapSpec (h : space.InStep space') (states : List String) :
    SameStep (mapSpec settings production kind canonical states spec space)
      (mapSpec settings production kind canonical states spec space') := by
  rw [Conversion.mapSpec, Conversion.mapSpec]
  cases specBody settings production spec with
  | error failure => exact .error h failure
  | ok body => exact Workspace.InStep.mapStates states _ space space' h

lemma Workspace.InStep.mapSpecs (states : List String) (specs : List TokenSpec) :
    ∀ (space space' : Workspace), space.InStep space' →
      SameStep (mapSpecs settings production kind canonical states specs space)
        (mapSpecs settings production kind canonical states specs space') := by
  induction specs with
  | nil => exact fun _ _ h => ⟨h, rfl⟩
  | cons spec specs ih =>
      intro space space' h
      rw [mapSpecs_cons, mapSpecs_cons]
      exact (h.mapSpec states).andThen fun _ => ih

lemma Workspace.InStep.mapProduction (h : space.InStep space') :
    SameStep (mapProduction settings production space)
      (mapProduction settings production space') := by
  rw [Conversion.mapProduction, Conversion.mapProduction]
  split
  · exact ⟨h, rfl⟩
  · cases production.kind with
    | unknown name => exact .error h _
    | known kind =>
        dsimp only
        cases canonicalState? production.states with
        | none => exact ⟨h.addModes production.states, rfl⟩
        | some canonical => exact Workspace.InStep.mapSpecs _ production.specs _ _ (h.addModes _)

lemma Workspace.InStep.promoteSpecs (specs : List TokenSpec) :
    ∀ (space space' : Workspace), space.InStep space' →
      SameStep (promoteSpecs settings production specs space)
        (promoteSpecs settings production specs space') := by
  induction specs with
  | nil => exact fun _ _ h => ⟨h, rfl⟩
  | cons spec specs ih =>
      intro space space' h
      cases hbody : specBody settings production spec with
      | error failure =>
          rw [Conversion.promoteSpecs, Conversion.promoteSpecs, hbody]
          exact .error h failure
      | ok body =>
          rw [promoteSpecs_cons hbody, promoteSpecs_cons hbody, h.lexer]
          split
          · exact ih space space' h
          · exact ((h.noting _).addRule _ _ .token).andThen fun _ => ih

lemma Workspace.InStep.convertProduction (h : space.InStep space') :
    SameStep (convertProduction settings production space)
      (convertProduction settings production space') := by
  rw [Conversion.convertProduction, Conversion.convertProduction]
  split
  · exact h.mapProduction
  · exact Workspace.InStep.promoteSpecs production.specs space space' h

/-- **Conversions stay in step,** whatever productions come. -/
lemma Workspace.InStep.convertTokenProductions (productions : List TokenProduction) :
    ∀ (space space' : Workspace), space.InStep space' →
      SameStep (convertTokenProductions settings productions space)
        (convertTokenProductions settings productions space') := by
  induction productions with
  | nil => exact fun _ _ h => ⟨h, rfl⟩
  | cons production productions ih =>
      intro space space' h
      rw [convertTokenProductions_cons, convertTokenProductions_cons]
      exact h.convertProduction.andThen fun _ => ih

end Steps

section Extension

variable {grammar : Grammar} {production : TokenProduction} {space space' : Workspace}
  {name : String}

/-! ## The two conversions -/

/-- The reserved names of the last production come last. -/
lemma reservedNames_extended (grammar : Grammar) (production : TokenProduction) :
    reservedNames (grammar.extended production)
      = reservedNames grammar ++ (production.specs.filterMap TokenSpec.label?).map ruleName := by
  simp [reservedNames, Grammar.specs, Grammar.extended]

/-- **The two conversions begin in step,** if the labels of the production are no generated
names. -/
lemma inStep_initialWorkspace (name : String)
    (hcase : (grammar.extended production).usesIgnoreCase = grammar.usesIgnoreCase)
    (hlabels : ∀ spec ∈ production.specs, ∀ label, spec.label? = some label →
      ∀ kind number, label ≠ numbered kind number) :
    (initialWorkspace name (grammar.extended production)).InStep
      (initialWorkspace name grammar) := by
  refine ⟨?_, rfl, fun kind number => ?_⟩
  · rw [initialWorkspace, initialWorkspace, hcase]
  · show _ ∈ reservedNames grammar ↔ _ ∈ reservedNames (grammar.extended production)
    rw [reservedNames_extended, List.mem_append]
    refine ⟨.inl, fun h => h.resolve_right fun hmem => ?_⟩
    rcases List.mem_map.mp hmem with ⟨label, hlabel, hname⟩
    rcases List.mem_filterMap.mp hlabel with ⟨spec, hspec, hsome⟩
    -- a name with a stem holds an underscore, so the label itself is the generated name
    have hhead : label.toList.head? ≠ some '_' := by
      intro hhead
      rw [ruleName, if_pos hhead] at hname
      refine underscore_notMem_numbered kind number ?_
      rw [← hname, String.toList_append, List.mem_append]
      exact .inr (List.mem_of_head? hhead)
    rw [ruleName_of_head?_ne hhead] at hname
    exact hlabels spec hspec label hsome kind number hname

/-- **Letter rules are only dropped** on the way. -/
lemma Reaches.letterRules_sublist (h : Reaches grammar space space') :
    space'.lexer.letterRules.Sublist space.lexer.letterRules := by
  induction h with
  | refl => exact .refl _
  | tail _ hmove ih =>
      cases hmove with
      | noted => exact ih
      | registered mode => rwa [letterRules_addMode]
      | requested _ hadded => exact (Workspace.adding_of_addRule hadded).keeps.letters.trans ih

/-- **A production at the end only adds rules.**  Let a grammar with one more production at the end
be converted, where the production does not change whether case may matter, and none of its labels
is a generated name.  Then the grammar without it is converted too.  Each of its modes is there in
the longer grammar, with its rules at the beginning, and its letter rules include those of the
longer grammar. -/
theorem rulesIn_prefix_of_extended
    (hrun : convertTokens name (grammar.extended production) = (space', .ok ()))
    (hcase : (grammar.extended production).usesIgnoreCase = grammar.usesIgnoreCase)
    (hlabels : ∀ spec ∈ production.specs, ∀ label, spec.label? = some label →
      ∀ kind number, label ≠ numbered kind number) :
    ∃ space, convertTokens name grammar = (space, .ok ()) ∧
      (∀ mode ∈ space.lexer.modes, ∃ mode', space'.lexer.mode? mode.name = some mode' ∧
        mode.rules <+: mode'.rules) ∧
      space'.lexer.letterRules.Sublist space.lexer.letterRules := by
  rcases (sequential_convertTokenProductions _).of_append_ok hrun with ⟨mid, hearlier, hlast⟩
  have hstep : SameStep
      (convertTokenProductions (tokenSettings grammar) grammar.tokenProductions
        (initialWorkspace name (grammar.extended production)))
      (convertTokenProductions (tokenSettings grammar) grammar.tokenProductions
        (initialWorkspace name grammar)) :=
    Workspace.InStep.convertTokenProductions _ _ _ (inStep_initialWorkspace name hcase hlabels)
  have hsettings : tokenSettings (grammar.extended production) = tokenSettings grammar := rfl
  rw [← hsettings, hearlier] at hstep
  refine ⟨(convertTokens name grammar).1, Prod.ext rfl hstep.result, ?_⟩
  have hlexer : (convertTokens name grammar).1.lexer = mid.lexer := hstep.inStep.lexer
  rw [hlexer]
  -- from here on there is only the longer grammar
  have hinitial := Workspace.sound_initialWorkspace name (grammar.extended production)
  have hbefore : Reaches (grammar.extended production) _ mid :=
    (turned_of_convertTokenProductions grammar.tokenProductions _
      (by simp +contextual [Grammar.extended]) hinitial hearlier).1
  have hafter : Reaches (grammar.extended production) mid space' :=
    (turned_of_convertTokenProductions [production] _ (by simp [Grammar.extended])
      (hbefore.sound hinitial) hlast).1
  refine ⟨fun mode hmode => ?_, hafter.letterRules_sublist⟩
  have hdistinct : mid.lexer.HasDistinctModes := (Reaches.accounted hbefore
    (accounted_initialWorkspace name _)).distinctModes
  obtain ⟨mode', hmode'⟩ := exists_mode?_iff.mpr
    (hafter.keepsShape.names.subset (List.mem_map_of_mem hmode))
  refine ⟨mode', hmode', ?_⟩
  have hgrow := hafter.rulesIn_grow (hbefore.sound hinitial) mode.name
  rwa [hdistinct.rulesIn_eq hmode, rulesIn_of_mode? hmode'] at hgrow

end Extension

/-- A token of two states without a label. -/
def unlabelledToken : Grammar :=
  { tokenProductions :=
      [{ kind := .known .token
         listedStates := ["DEFAULT", "S"]
         specs := [{ tree := .regex (.literal "x") }] }]
    bnfProductions := [] }

/-- A token of the second of these states, with a label. -/
def labelledToken : TokenProduction :=
  { kind := .known .token
    listedStates := ["S"]
    specs := [{ tree := .regex (.literal "y"), label := some "Y" }] }

/-- The rule for the later token comes behind the one that refers to the first token. -/
theorem rulesIn_prefix_of_extended_labelledToken :
    (convertTokens "L" (unlabelledToken.extended labelledToken)).1.lexer.modes.map Mode.rules
        = [[{ name := "TOKEN0", body := .text "'x'" }],
          [{ name := "S_TOKEN0", body := .text "TOKEN0", commands := [.type "TOKEN0"] },
            { name := "Y", body := .text "'y'" }]] ∧
      ∃ space, convertTokens "L" unlabelledToken = (space, .ok ()) ∧
        ∀ mode ∈ space.lexer.modes, ∃ mode',
          (convertTokens "L" (unlabelledToken.extended labelledToken)).1.lexer.mode? mode.name
              = some mode' ∧
            mode.rules <+: mode'.rules := by
  have hok : (convertTokens "L" (unlabelledToken.extended labelledToken)).2 = .ok () := rfl
  have hlabels : ∀ spec ∈ labelledToken.specs, ∀ label, spec.label? = some label →
      ∀ kind number, label ≠ NameSupply.numbered kind number := by
    rintro spec hspec label hlabel kind number rfl
    obtain rfl := List.mem_singleton.mp hspec
    have hlength := one_lt_length_numbered kind number
    rw [← Option.some.inj (hlabel : some "Y" = _)] at hlength
    exact absurd hlength (by decide)
  obtain ⟨space, hrun, hmodes, -⟩ := rulesIn_prefix_of_extended (Prod.ext rfl hok) rfl hlabels
  exact ⟨by decide +kernel, space, hrun, hmodes⟩

end GrammarConversion.Conversion
