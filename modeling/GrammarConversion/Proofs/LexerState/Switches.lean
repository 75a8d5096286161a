import GrammarConversion.Proofs.LexerGrammar.Document
import GrammarConversion.Proofs.LexerState.Failures
import GrammarConversion.Proofs.LexerState.Origin

/-!
# Modes that are switched to

A rule may set or push a mode: that of a next state, or that of the state in which it stands.  The
mode has to be declared, and it is if it has rules (`declaresMode_of_mem_rulesIn`).

A state of an explicit production has a mode, but need not have rules there.  A private token is
written in one state only; and where the body of a token is the name that it takes in its turn, no
rule is written in the canonical state.  Any other token leaves a rule in each of its states.

**`declaresMode_of_switchesTo`: a mode that is switched to is declared** unless its state is one
where no token leaves a rule (`declaresMode_exception`).
-/

namespace GrammarConversion.Antlr

/-- The mode that a command switches to. -/
def Command.switch? : Command → Option String
  | .mode target => some target
  | .pushMode target => some target
  | _ => none

/-- **Whether a rule switches to a mode,** by setting or by pushing it. -/
def Rule.SwitchesTo (rule : Rule) (target : String) : Prop :=
  ∃ command ∈ rule.commands, command.switch? = some target

end GrammarConversion.Antlr

namespace GrammarConversion.Model

/-- **Whether a lexical state is one of an explicit production.** -/
def Grammar.HasState (grammar : Grammar) (state : String) : Prop :=
  ∃ production ∈ grammar.tokenProductions, production.isExplicit = true ∧
    state ∈ production.states

/-- **Whether a grammar mentions a lexical state,** as one of an explicit production or as a next
state. -/
def Grammar.MentionsState (grammar : Grammar) (state : String) : Prop :=
  grammar.HasState state ∨ ∃ spec ∈ grammar.specs, spec.nextState = some state

end GrammarConversion.Model

namespace GrammarConversion.Conversion

open Antlr
open LexerGrammar
open Model
open NameSupply

/-- **The workspace when the turn of a token comes:** the productions before its own have been
converted, and the tokens before it. -/
def turnStart (name : String) (grammar : Grammar) (earlier : List TokenProduction)
    (production : TokenProduction) (specs : List TokenSpec) : Workspace :=
  (convertTokenProductions (tokenSettings grammar)
    (earlier ++ [{ production with specs := specs }]) (initialWorkspace name grammar)).1

/-- **The name that a token takes in its turn:** that of its label, or else the first one that the
supply gives and no rule has. -/
def takenName (kind : ProductionKind) (spec : TokenSpec) (lexer : LexerGrammar)
    (names : NameSupply) : String :=
  match spec.label? with
  | some label => ruleName label
  | none =>
    (drawUnused (fun names => names.next kind) (fun name => (lexer.ruleNamed? name).isSome)
      lexer.rules.length names).1

/-- **Whether a token leaves no rule in one of its states,** where `start` is the workspace when its
turn comes. -/
inductive LeavesNoRule (grammar : Grammar) (start : Workspace) (production : TokenProduction)
    (spec : TokenSpec) (state : String) : Prop
  /-- It is private, and written in another state. -/
  | elsewhere (hprivate : spec.isPrivate = true)
      (hstate : canonicalState? production.states ≠ some state)
  /-- It would only refer to itself, and there is no letter rule to take the place of. -/
  | itself {kind : ProductionKind} (hkind : production.kind = .known kind)
      (hstate : canonicalState? production.states = some state)
      (hbody : specBody (tokenSettings grammar) production spec
        = .ok (.text (takenName kind spec start.lexer start.names)))
      (hletter : start.lexer.letterRule? (takenName kind spec start.lexer start.names) = none)

/-- **Whether no token leaves a rule in a state.**  Each token of an explicit production in that
state is looked at in its turn. -/
def IsEmptyState (name : String) (grammar : Grammar) (state : String) : Prop :=
  ∀ earlier production later, grammar.tokenProductions = earlier ++ production :: later →
    production.isExplicit = true → state ∈ production.states →
      ∀ specs spec specs', production.specs = specs ++ spec :: specs' →
        LeavesNoRule grammar (turnStart name grammar earlier production specs) production spec state

section Switches

variable {grammar : Grammar} {production : TokenProduction} {spec : TokenSpec}
  {lexer : LexerGrammar} {space : Workspace} {pair : GrammarPair} {rule : Rule} {command : Command}
  {mode name state target document : String}

/-! ## Targets are modes of states -/

lemma switch?_kindCommands (kind : ProductionKind) (h : command ∈ kindCommands kind) :
    command.switch? = none := by
  cases kind <;> simp [kindCommands] at h <;> simp [h, Command.switch?]

lemma exists_state_of_stateCommands {settings : TokenSettings} (hspec : spec ∈ grammar.specs)
    (hstate : grammar.HasState state) (h : command ∈ stateCommands settings spec state)
    (hswitch : command.switch? = some target) :
    ∃ goal, grammar.MentionsState goal ∧ target = modeName goal := by
  unfold stateCommands at h
  dsimp only at h
  split_ifs at h
  · obtain rfl := List.mem_singleton.mp h
    refine ⟨_, ?_, (Option.some.inj hswitch).symm⟩
    cases hfilled : filled spec.nextState with
    | none => exact .inl hstate
    | some next => exact .inr ⟨spec, hspec, (Option.filter_eq_some_iff.mp hfilled).1⟩
  · obtain rfl := List.mem_singleton.mp h
    cases hswitch
  · split at h
    · rename_i next hsome
      obtain rfl := List.mem_singleton.mp h
      exact ⟨next, .inr ⟨spec, hspec, hsome⟩, (Option.some.inj hswitch).symm⟩
    · exact absurd h List.not_mem_nil

/-- **A rule that is asked for only switches to modes of states.** -/
lemma Request.exists_state (h : Request grammar lexer mode rule)
    (hswitch : rule.SwitchesTo target) :
    ∃ goal, grammar.MentionsState goal ∧ target = modeName goal := by
  rcases hswitch with ⟨command, hcommand, hswitch⟩
  cases h with
  | @full production spec body commands hconverts hcommands =>
      rcases hcommands with hnone | ⟨hexplicit, kind, -, state, hstate, rfl⟩
      · rw [fullRule, hnone] at hcommand
        exact absurd hcommand List.not_mem_nil
      · rcases List.mem_append.mp hcommand with hkind | hcommand
        · rw [switch?_kindCommands kind hkind] at hswitch
          cases hswitch
        · exact exists_state_of_stateCommands hconverts.spec_mem_specs
            ⟨production, hconverts.production_mem, hexplicit, hstate⟩ hcommand hswitch
  | @aliased production spec body kind other state hconverts hexplicit _ _ hstate _ =>
      rw [aliasRule, List.mem_append, List.mem_append] at hcommand
      rcases hcommand with (hkind | htype) | hcommand
      · rw [switch?_kindCommands kind hkind] at hswitch
        cases hswitch
      · split at htype
        · rw [List.mem_singleton.mp htype] at hswitch
          cases hswitch
        · exact absurd htype List.not_mem_nil
      · exact exists_state_of_stateCommands hconverts.spec_mem_specs
          ⟨production, hconverts.production_mem, hexplicit, hstate⟩ hcommand hswitch

/-- **All rules of the finished lexer only switch to modes of states.** -/
lemma exists_state_of_switchesTo (hrun : convertTokens name grammar = (space, .ok ())) :
    ∀ mode, ∀ rule ∈ space.lexer.rulesIn mode, ∀ target, rule.SwitchesTo target →
      ∃ goal, grammar.MentionsState goal ∧ target = modeName goal := by
  refine (reaches_convertTokens hrun).forall_rules (Workspace.sound_initialWorkspace name grammar)
    (fun hrequest hnew _ target hswitch => ?_) (by simp [Workspace.rulesIn_initialWorkspace])
  rw [Rule.SwitchesTo, hnew.commands] at hswitch
  exact hrequest.exists_state hswitch

/-- **All rules of the finished lexer stand in modes of states,** or in the default mode. -/
lemma exists_state_of_mem_rulesIn (hrun : convertTokens name grammar = (space, .ok ())) :
    ∀ mode, ∀ rule ∈ space.lexer.rulesIn mode,
      mode = defaultMode ∨ ∃ state, grammar.HasState state ∧ mode = modeName state := by
  refine (reaches_convertTokens hrun).forall_rules (Workspace.sound_initialWorkspace name grammar)
    (fun hrequest _ _ => ?_) (by simp [Workspace.rulesIn_initialWorkspace])
  cases hrequest with
  | @full production spec body commands hconverts _ =>
      cases hexplicit : production.isExplicit with
      | false => exact .inl (homeMode_of_implicit hexplicit)
      | true =>
          obtain ⟨canonical, hcanonical⟩ := exists_canonicalState? production
          exact .inr ⟨canonical, ⟨production, hconverts.production_mem, hexplicit,
            canonicalState?_mem hcanonical⟩, homeMode_of_explicit hexplicit hcanonical⟩
  | @aliased production _ _ _ _ state hconverts hexplicit _ _ hstate _ =>
      exact .inr ⟨state, ⟨production, hconverts.production_mem, hexplicit, hstate⟩, rfl⟩

/-! ## The turn of a token -/

section Turns

variable {earlier later : List TokenProduction} {specs specs' : List TokenSpec}

/-- Where a conversion goes through, all that comes before the turn of a token does, and all that
comes from its turn on. -/
lemma mapSpecs_turnStart (hrun : convertTokens name grammar = (space, .ok ()))
    (hproductions : grammar.tokenProductions = earlier ++ production :: later)
    (hexplicit : production.isExplicit = true) (hspecs : production.specs = specs ++ specs') :
    ∃ kind canonical converted mapped, production.kind = .known kind ∧
      canonicalState? production.states = some canonical ∧
      convertTokenProductions (tokenSettings grammar) earlier (initialWorkspace name grammar)
          = (converted, .ok ()) ∧
      mapSpecs (tokenSettings grammar) production kind canonical
          (canonicalFirst canonical production.states) specs
          (converted.addModes production.states)
          = (turnStart name grammar earlier production specs, .ok ()) ∧
      mapSpecs (tokenSettings grammar) production kind canonical
          (canonicalFirst canonical production.states) specs'
          (turnStart name grammar earlier production specs) = (mapped, .ok ()) ∧
      convertTokenProductions (tokenSettings grammar) later mapped = (space, .ok ()) := by
  rw [convertTokens, hproductions] at hrun
  rcases exists_convertProduction hrun with ⟨converted, mapped, hearlier, hmapped, hlater⟩
  rw [convertProduction, if_pos hexplicit] at hmapped
  rcases exists_mapSpecs hexplicit hmapped with ⟨kind, canonical, hkind, hcanonical, hmapped⟩
  have hsequential := (convertsSpecs_mapSpecs (tokenSettings grammar) production kind canonical
    (canonicalFirst canonical production.states)).sequential
  rw [hspecs] at hmapped
  rcases hsequential.of_append_ok hmapped with ⟨start, hbefore, hrest⟩
  have hmaps : mapProduction (tokenSettings grammar) { production with specs := specs } converted
      = _ := mapProduction_of_explicit hexplicit hkind hcanonical
  have hstart : turnStart name grammar earlier production specs = start := by
    rw [turnStart, (sequential_convertTokenProductions _).append_of_ok hearlier,
      convertTokenProductions_single, convertProduction, if_pos hexplicit, hmaps,
      mapSpecs_withSpecs]
    exact congrArg Prod.fst hbefore
  rw [hstart]
  exact ⟨kind, canonical, converted, mapped, hkind, hcanonical, hearlier, hbefore, hrest, hlater⟩

/-- **A conversion passes the workspace in which the turn of a token comes,** and maps the token
from there on. -/
lemma exists_mapSpec_turnStart (hrun : convertTokens name grammar = (space, .ok ()))
    (hproductions : grammar.tokenProductions = earlier ++ production :: later)
    (hexplicit : production.isExplicit = true)
    (hspecs : production.specs = specs ++ spec :: specs') :
    ∃ kind canonical next, production.kind = .known kind ∧
      canonicalState? production.states = some canonical ∧
      (turnStart name grammar earlier production specs).Sound grammar ∧
      mapSpec (tokenSettings grammar) production kind canonical
          (canonicalFirst canonical production.states) spec
          (turnStart name grammar earlier production specs) = (next, .ok ()) ∧
      Reaches grammar (turnStart name grammar earlier production specs) next ∧
      Reaches grammar next space := by
  have hproduction : production ∈ grammar.tokenProductions := by simp [hproductions]
  have hspec : spec ∈ production.specs := by simp [hspecs]
  have hinitial := Workspace.sound_initialWorkspace name grammar
  rcases mapSpecs_turnStart hrun hproductions hexplicit hspecs with
    ⟨kind, canonical, converted, mapped, hkind, hcanonical, hearlier, hbefore, hrest, hlater⟩
  rw [mapSpecs] at hrest
  split at hrest
  · cases hrest
  rename_i next hturn
  have hconverted := (turned_of_convertTokenProductions earlier _
    (by simp +contextual [hproductions]) hinitial hearlier).1
  have hmodes : (converted.addModes production.states).Sound grammar :=
    Reaches.sound (hconverted.trans (reaches_addModes _ converted)) hinitial
  have hsound := (turned_of_mapSpecs hproduction hexplicit hkind hcanonical specs _
    (by simp +contextual [hspecs]) hmodes hbefore).1.sound hmodes
  have hreaches := (turned_of_mapSpec hproduction hexplicit hkind hcanonical hspec hsound
    hturn).reaches
  have hfollows := (turned_of_mapSpecs hproduction hexplicit hkind hcanonical specs' _
    (by simp +contextual [hspecs]) (hreaches.sound hsound) hrest).1
  have hlast := (turned_of_convertTokenProductions later _ (by simp +contextual [hproductions])
    (hfollows.sound (hreaches.sound hsound)) hlater).1
  exact ⟨kind, canonical, next, hkind, hcanonical, hsound, hturn, hreaches,
    hfollows.trans hlast⟩

end Turns

/-- **A rule that is dropped** has its own name as its body, and no letter rule has that name. -/
lemma self_of_adding {lexer' : LexerGrammar} {names names' : NameSupply} {kind : ProductionKind}
    (hletters : ∀ letter ∈ lexer.letterRules, letter ∈ allLetterRules)
    (hname : rule.name = givenName spec)
    (h : Adding lexer mode rule names (some fun names => names.next kind) lexer' names'
      (.ok none)) :
    rule.body = .text (takenName kind spec lexer names) ∧
      lexer.letterRule? (takenName kind spec lexer names) = none := by
  have hkept : ∀ letter ∈ (lexer.addMode mode).letterRules, letter ∈ allLetterRules := by
    rwa [letterRules_addMode]
  have htaken {taken : String}
      (hsettle : Settling (lexer.addMode mode) mode { rule with name := taken } lexer' (.ok none)) :
      rule.body = .text taken ∧ lexer.letterRule? taken = none := by
    have hletter := (hsettle.ordinary_of_none hkept).1
    rw [letterRule?, letterRules_addMode] at hletter
    exact ⟨hsettle.body_eq_of_none hkept, hletter⟩
  cases h with
  | named hne hsettle =>
      rw [hname] at hne
      rcases exists_label_of_givenName_ne hne with ⟨label, hlabel, hgiven⟩
      rw [hname, hgiven, ruleName_ruleName] at hsettle
      rw [takenName, hlabel]
      exact htaken hsettle
  | drawn hempty hdraw hdrawn hsettle =>
      cases hdraw
      have hgenerated := (drawUnused_next names kind (lexer.addMode mode)).generated
      rw [hname] at hempty
      rw [hdrawn, hgenerated.ruleName_eq] at hsettle
      have hfirst := htaken hsettle
      simp only [ruleNamed?, rules_addMode] at hfirst
      rw [takenName, label?_eq_none_of_givenName hempty]
      exact hfirst

/-- **A token leaves a rule in its canonical state,** unless it would only refer to itself. -/
lemma leavesNoRule_of_mapSpec {start next : Workspace} {kind : ProductionKind}
    (hsound : start.Sound grammar) (hkind : production.kind = .known kind)
    (hcanonical : canonicalState? production.states = some state)
    (h : mapSpec (tokenSettings grammar) production kind state
      (canonicalFirst state production.states) spec start = (next, .ok ()))
    (hempty : next.lexer.rulesIn (modeName state) = []) :
    LeavesNoRule grammar start production spec state := by
  rw [mapSpec] at h
  split at h
  · cases h
  rename_i body hbody
  rcases mapStates_cons_ok (by simp) h with ⟨mid, stored, hadded, hrest⟩
  have hnoted := hsound.noting (privateWarning spec)
  cases stored with
  | some stored =>
      have hkept : mid.lexer.rulesIn (modeName state) <+: next.lexer.rulesIn (modeName state) := by
        cases hprivate : spec.isPrivate with
        | true =>
            rw [mapStates_private hprivate (by simp)] at hrest
            rcases Prod.mk.inj hrest with ⟨rfl, -⟩
            exact List.prefix_refl _
        | false =>
            exact rulesIn_prefix_of_mapStates hprivate _ _ _ _
              (sound_addRule_public hnoted hprivate hadded) hrest
      have hmem := hkept.subset (hnoted.gain hadded).mem_stored.1
      rw [hempty] at hmem
      exact absurd hmem List.not_mem_nil
  | none =>
      rcases stateRule_self (tokenSettings grammar) kind spec body state (givenName spec) with
        ⟨hname, hsame⟩
      rcases self_of_adding (fun letter hletter => (hnoted.letters letter hletter).2) hname
        (Workspace.adding_of_addRule hadded) with ⟨hself, hletter⟩
      rw [hsame.symm.trans hself] at hbody
      exact .itself hkind hcanonical hbody hletter

/-! ## Tokens leave rules in their states -/

/-- **A token that is not private leaves a rule in each of its other states.** -/
lemma Turned.isPrivate_of_empty {start : Workspace}
    (hturned : Turned grammar production spec start space) (hsound : start.Sound grammar)
    (hexplicit : production.isExplicit = true) (hstate : state ∈ production.states)
    (hother : canonicalState? production.states ≠ some state)
    (hempty : space.lexer.rulesIn (modeName state) = []) : spec.isPrivate = true := by
  cases hturned with
  | found _ himplicit =>
      rw [hexplicit] at himplicit
      exact Bool.noConfusion himplicit
  | written hconverts hcommands hbefore hadded hafter hfills =>
      rw [← Bool.not_eq_false]
      intro hpublic
      rcases hfills hexplicit hpublic state hstate hother with ⟨mid, hmid, ⟨rule, hrule⟩, hrest⟩
      have hmoved := Move.sound (hbefore.sound hsound)
        (.requested (.full hconverts hcommands) hadded)
      have hlast := (hrest.rulesIn_grow (hmid.sound hmoved) (modeName state)).subset hrule
      rw [hempty] at hlast
      exact absurd hlast List.not_mem_nil

/-- **A state whose mode has no rules is one where no token leaves a rule.** -/
lemma isEmptyState_of_convertTokens (hrun : convertTokens name grammar = (space, .ok ()))
    (hempty : space.lexer.rulesIn (modeName state) = []) : IsEmptyState name grammar state := by
  intro earlier production later hproductions hexplicit hstate specs spec specs' hspecs
  rcases exists_mapSpec_turnStart hrun hproductions hexplicit hspecs with
    ⟨kind, canonical, next, hkind, hcanonical, hsound, hturn, hreaches, hlast⟩
  by_cases hhome : canonical = state
  · subst hhome
    refine leavesNoRule_of_mapSpec hsound hkind hcanonical hturn (List.eq_nil_of_subset_nil ?_)
    rw [← hempty]
    exact (hlast.rulesIn_grow (hreaches.sound hsound) _).subset
  · have hother : canonicalState? production.states ≠ some state := by
      rw [hcanonical, Ne, Option.some_inj]
      exact hhome
    have hturned : Turned grammar production spec (initialWorkspace name grammar) space :=
      turned_of_convertTokens hrun (by simp [hproductions]) (by simp [hspecs])
    exact .elsewhere (hturned.isPrivate_of_empty (Workspace.sound_initialWorkspace name grammar)
      hexplicit hstate hother hempty) hother

/-! ## Declarations -/

/-- **A mode that is switched to is declared,** unless it is the default mode or one without rules,
of a state where no token leaves a rule.  Every next state is a state of some explicit
production. -/
theorem declaresMode_of_switchesTo (h : (convert name grammar).result = .ok pair)
    (hdocument : pair.lexerDocument = .ok document)
    (hnext : ∀ spec ∈ grammar.specs, ∀ next, spec.nextState = some next → grammar.HasState next) :
    ∀ rule ∈ pair.lexer.documentRules, ∀ target, rule.SwitchesTo target →
      target = defaultMode ∨ DeclaresMode document target ∨
        ∃ state, grammar.HasState state ∧ target = modeName state ∧
          pair.lexer.rulesIn target = [] ∧ IsEmptyState (name ++ "Lexer") grammar state := by
  rcases of_convert_eq_ok h with ⟨space, htokens, hlexer, -⟩
  have haccounted := accounted_of_convertTokens htokens
  rw [GrammarPair.lexerDocument] at hdocument
  split at hdocument
  · obtain rfl := Except.ok.inj hdocument
    rw [hlexer]
    intro rule hrule target hswitch
    rcases mem_documentRules hrule with hrule | hletter
    · rcases haccounted.distinctModes.exists_mode hrule with ⟨mode, hmem⟩
      rcases exists_state_of_switchesTo htokens mode rule hmem target hswitch with
        ⟨state, hmentioned, rfl⟩
      have hstate : grammar.HasState state :=
        hmentioned.elim id fun ⟨spec, hspec, hsome⟩ => hnext spec hspec state hsome
      by_cases hdefault : modeName state = defaultMode
      · exact .inl hdefault
      · right
        cases hrules : space.lexer.rulesIn (modeName state) with
        | nil =>
            exact .inr ⟨state, hstate, rfl, rfl, isEmptyState_of_convertTokens htokens hrules⟩
        | cons first others =>
            have hfirst : first ∈ space.lexer.rulesIn (modeName state) := by simp [hrules]
            exact .inl (declaresMode_of_mem_rulesIn hfirst hdefault)
    · rcases hswitch with ⟨command, hcommand, -⟩
      rw [letter_commands rule (haccounted.sound.letters rule hletter).2] at hcommand
      exact absurd hcommand List.not_mem_nil
  · cases hdocument

end Switches

/-- A token in two states and a token that switches to one of them. -/
def switchGrammar (isPrivate : Bool) : Grammar :=
  { tokenProductions :=
      [{ kind := .known .token
         listedStates := ["DEFAULT", "S"]
         specs :=
          [{ tree := .regex (.literal "0"), label := some "ZERO", privacy := some isPrivate }] },
       { kind := .known .token
         listedStates := ["DEFAULT"]
         specs := [{ tree := .regex (.literal "x"), label := some "X", nextState := some "S" }] }]
    bnfProductions := [] }

lemma switchGrammar_hasState (isPrivate : Bool) :
    ∀ spec ∈ (switchGrammar isPrivate).specs, ∀ next, spec.nextState = some next →
      (switchGrammar isPrivate).HasState next := by
  intro spec hspec next hnext
  have hstates : ∀ spec ∈ (switchGrammar isPrivate).specs, ∀ next, spec.nextState = some next →
      next = "S" := by
    simp [switchGrammar, Grammar.specs]
  rw [hstates spec hspec next hnext]
  exact ⟨_, List.mem_cons_self, rfl, by simp [TokenProduction.states]⟩

/-- A public token is referred to from the other state, whose mode is declared for it. -/
theorem declaresMode_switchGrammar :
    ∃ pair document, (convert "G" (switchGrammar false)).result = .ok pair ∧
      pair.lexerDocument = .ok document ∧
      (∃ rule ∈ pair.lexer.documentRules, rule.SwitchesTo "S") ∧ DeclaresMode document "S" := by
  have hok : ∃ pair document, (convert "G" (switchGrammar false)).result = .ok pair ∧
      pair.lexerDocument = .ok document ∧
      { name := "X", body := .text "'x'", commands := [.mode "S"] } ∈ pair.lexer.documentRules :=
    ⟨_, _, rfl, rfl, by decide +kernel⟩
  rcases hok with ⟨pair, document, hconvert, hdocument, hrule⟩
  have hswitch :
      Rule.SwitchesTo { name := "X", body := .text "'x'", commands := [.mode "S"] } "S" :=
    ⟨.mode "S", List.mem_cons_self, rfl⟩
  refine ⟨pair, document, hconvert, hdocument, ⟨_, hrule, hswitch⟩, ?_⟩
  rcases declaresMode_of_switchesTo hconvert hdocument (switchGrammar_hasState false) _ hrule "S"
    hswitch with hdefault | hdeclared | ⟨state, -, hmode, -, hempty⟩
  · exact absurd hdefault (by decide)
  · exact hdeclared
  · have hstate : state = "S" :=
      modeName_injective (by rintro rfl; exact absurd hmode (by decide)) (by decide) hmode.symm
    subst hstate
    cases hempty [] _ _ rfl rfl (by decide) [] _ [] rfl with
    | elsewhere hprivate => cases hprivate
    | itself _ hcanonical => exact absurd hcanonical (by decide)

/-- **A mode that is switched to need not be declared:** a private token of two states is written in
one of them. -/
theorem declaresMode_exception :
    (∀ spec ∈ (switchGrammar true).specs, ∀ next, spec.nextState = some next →
      (switchGrammar true).HasState next) ∧
    ∃ pair document, (convert "G" (switchGrammar true)).result = .ok pair ∧
      pair.lexerDocument = .ok document ∧ "S" ≠ defaultMode ∧ ¬DeclaresMode document "S" ∧
        ∃ rule ∈ pair.lexer.documentRules, rule.SwitchesTo "S" := by
  refine ⟨switchGrammar_hasState true, _, _, rfl, rfl, by decide, ?_,
    { name := "X", body := .text "'x'", commands := [.mode "S"] }, ?_, .mode "S", by simp, rfl⟩
  · decide +kernel
  · decide +kernel

end GrammarConversion.Conversion
