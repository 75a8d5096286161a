import Mathlib.Logic.Relation
import GrammarConversion.Proofs.LexerState.Gain
import GrammarConversion.Proofs.LexerState.Run

/-!
# The moves of a conversion

Whatever token productions a grammar has, explicit or not, its lexer is built by three kinds of
moves (`Move`): records are made, modes are registered, and rules are added.  Only two kinds of
rules are ever asked for (`Request`): the one in which a token is written in full, and the one that
refers to it from another state.

* **`reaches_convertTokens`: a conversion that goes through is a sequence of moves,** so what each
  move keeps holds of the finished lexer.
* `turned_of_convertTokens`: somewhere in that sequence each token has its turn.
-/

namespace GrammarConversion.Conversion

open Antlr
open LexerGrammar
open Model
open NameSupply

/-! ## What is asked for -/

/-- **A token of a grammar with the body that it is converted to.** -/
structure Converts (grammar : Grammar) (production : TokenProduction) (spec : TokenSpec)
    (body : Body) : Prop where
  production_mem : production ∈ grammar.tokenProductions
  spec_mem : spec ∈ production.specs
  converted : specBody (tokenSettings grammar) production spec = .ok body

lemma Converts.spec_mem_specs {grammar : Grammar} {production : TokenProduction} {spec : TokenSpec}
    {body : Body} (h : Converts grammar production spec body) : spec ∈ grammar.specs :=
  List.mem_flatMap.mpr ⟨production, h.production_mem, h.spec_mem⟩

/-- The mode in which the tokens of a production are written in full. -/
def homeMode (production : TokenProduction) : String :=
  if production.isExplicit then
    ((canonicalState? production.states).map modeName).getD defaultMode
  else defaultMode

/-- Whether some commands may stand at a rule that is written in full. -/
def FullCommands (grammar : Grammar) (production : TokenProduction) (spec : TokenSpec)
    (commands : List Command) : Prop :=
  commands = [] ∨ production.isExplicit = true ∧
    ∃ kind, production.kind = .known kind ∧ ∃ state ∈ production.states,
      commands = kindCommands kind ++ stateCommands (tokenSettings grammar) spec state

/-- The rule in which a token is written in full, before it has a name for certain. -/
def fullRule (production : TokenProduction) (spec : TokenSpec) (body : Body)
    (commands : List Command) : Rule :=
  { name := givenName spec
    body := body
    commands := commands
    isFragment := production.isExplicit && spec.isPrivate }

/-- The rule that refers to the rule `target` from another state. -/
def aliasRule (grammar : Grammar) (kind : ProductionKind) (spec : TokenSpec)
    (target state : String) : Rule :=
  { name := state ++ "_" ++ target
    body := .text target
    commands := kindCommands kind ++ (if kind = .token then [.type target] else [])
      ++ stateCommands (tokenSettings grammar) spec state }

/-- **The rules that a conversion asks for,** with their modes. -/
inductive Request (grammar : Grammar) (lexer : LexerGrammar) : String → Rule → Prop
  /-- The rule in which a token is written in full. -/
  | full {production : TokenProduction} {spec : TokenSpec} {body : Body}
      {commands : List Command} (hconverts : Converts grammar production spec body)
      (hcommands : FullCommands grammar production spec commands) :
      Request grammar lexer (homeMode production) (fullRule production spec body commands)
  /-- The rule that refers to it from another state. -/
  | aliased {production : TokenProduction} {spec : TokenSpec} {body : Body} {kind : ProductionKind}
      {target state : String} (hconverts : Converts grammar production spec body)
      (hexplicit : production.isExplicit = true) (hkind : production.kind = .known kind)
      (hpublic : spec.isPrivate = false) (hstate : state ∈ production.states)
      (htarget : target = givenName spec ∨ ∃ mode, ∃ rule ∈ lexer.rulesIn mode,
        rule.name = target) :
      Request grammar lexer (modeName state) (aliasRule grammar kind spec target state)

/-- **A move of a conversion** that goes through. -/
inductive Move (grammar : Grammar) : Workspace → Workspace → Prop
  | noted (space : Workspace) (records : List LogRecord) : Move grammar space (space.noting records)
  | registered (space : Workspace) (mode : String) :
      Move grammar space { space with lexer := space.lexer.addMode mode }
  | requested {space space' : Workspace} {mode : String} {rule : Rule} {kind : ProductionKind}
      {result : Option Rule} (hrequest : Request grammar space.lexer mode rule)
      (hadded : space.addRule mode rule kind = (space', .ok result)) : Move grammar space space'

/-- Several moves, one after another. -/
def Reaches (grammar : Grammar) : Workspace → Workspace → Prop :=
  Relation.ReflTransGen (Move grammar)

section Moves

variable {grammar : Grammar} {production : TokenProduction} {spec : TokenSpec} {body : Body}
  {kind : ProductionKind} {canonical target : String} {space mid space' : Workspace}

lemma homeMode_of_explicit (hexplicit : production.isExplicit = true)
    (hcanonical : canonicalState? production.states = some canonical) :
    homeMode production = modeName canonical := by
  rw [homeMode, if_pos hexplicit, hcanonical]
  rfl

lemma homeMode_of_implicit (himplicit : production.isExplicit = false) :
    homeMode production = defaultMode :=
  if_neg (by simp [himplicit])

/-- **The name that a token takes** is that of its label, or a generated one. -/
lemma Takes.of_fullRule {reserved : List String} {lexer : LexerGrammar} {name : String}
    {commands : List Command}
    (h : Takes reserved lexer (fullRule production spec body commands) name) :
    (∀ label, spec.label? = some label → name = ruleName label) ∧
      (spec.label? = none → IsGenerated reserved name) := by
  cases h with
  | given hne hname =>
      rcases exists_label_of_givenName_ne hne with ⟨label, hlabel, hgiven⟩
      rw [fullRule, hgiven, ruleName_ruleName] at hname
      rw [hlabel]
      exact ⟨fun other hother => by rwa [← Option.some.inj hother], fun hnone => by cases hnone⟩
  | drawn hempty hgenerated _ =>
      exact ⟨fun label hlabel => absurd hempty (givenName_ne_empty hlabel), fun _ => hgenerated⟩

lemma Move.sound (hsound : space.Sound grammar) (h : Move grammar space space') :
    space'.Sound grammar := by
  cases h with
  | noted records => exact hsound.noting records
  | registered mode => exact hsound.addMode mode
  | requested hrequest hadded =>
      refine hsound.addRule ?_ hadded
      cases hrequest with
      | full hconverts _ =>
          intro hfragment
          exact private_givenName hconverts.spec_mem_specs (Bool.and_eq_true _ _ ▸ hfragment).2
      | aliased => exact fun hfragment => Bool.noConfusion hfragment

lemma Move.keepsShape (h : Move grammar space space') :
    KeepsShape space.lexer space'.lexer := by
  cases h with
  | noted => exact KeepsShape.refl space.lexer
  | registered mode => exact keepsShape_addMode space.lexer mode
  | requested _ hadded => exact (Workspace.adding_of_addRule hadded).keepsShape

lemma Move.rulesIn_grow (hsound : space.Sound grammar) (h : Move grammar space space')
    (mode : String) : space.lexer.rulesIn mode <+: space'.lexer.rulesIn mode := by
  cases h with
  | noted => exact List.prefix_refl _
  | registered mode' => rw [rulesIn_addMode space.lexer mode' mode]
  | requested _ hadded => exact rulesIn_prefix_of_addRule hsound hadded

lemma Reaches.sound (h : Reaches grammar space space') (hsound : space.Sound grammar) :
    space'.Sound grammar := by
  induction h with
  | refl => exact hsound
  | tail _ hmove ih => exact hmove.sound ih

lemma Reaches.keepsShape (h : Reaches grammar space space') :
    KeepsShape space.lexer space'.lexer := by
  induction h with
  | refl => exact KeepsShape.refl space.lexer
  | tail _ hmove ih => exact ih.trans hmove.keepsShape

/-- **Rules stay where they are.** -/
lemma Reaches.rulesIn_grow (h : Reaches grammar space space') (hsound : space.Sound grammar)
    (mode : String) : space.lexer.rulesIn mode <+: space'.lexer.rulesIn mode := by
  induction h with
  | refl => exact List.prefix_refl _
  | tail hreaches hmove ih =>
      exact ih.trans (hmove.rulesIn_grow (Reaches.sound hreaches hsound) mode)

/-- **What every new rule brings along holds of all rules,** if it does in the beginning. -/
lemma Reaches.forall_rules {holds : String → Rule → Prop} (h : Reaches grammar space space')
    (hsound : space.Sound grammar)
    (hnew : ∀ {lexer : LexerGrammar} {mode : String} {rule stored : Rule},
      Request grammar lexer mode rule → New (reservedNames grammar) lexer mode rule stored →
        (∀ other, ∀ existing ∈ lexer.rulesIn other, holds other existing) → holds mode stored)
    (hbegin : ∀ mode, ∀ rule ∈ space.lexer.rulesIn mode, holds mode rule) :
    ∀ mode, ∀ rule ∈ space'.lexer.rulesIn mode, holds mode rule := by
  induction h with
  | refl => exact hbegin
  | tail hbefore hmove ih =>
      cases hmove with
      | noted => exact ih
      | registered =>
          intro mode rule hrule
          rw [rulesIn_addMode] at hrule
          exact ih mode rule hrule
      | requested hrequest hadded =>
          intro mode rule hrule
          rcases ((Reaches.sound hbefore hsound).gain hadded).mem_rulesIn hrule with
            hexisting | ⟨rfl, hstored⟩
          · exact ih mode rule hexisting
          · exact hnew hrequest hstored ih

/-! ## The turns of the tokens -/

/-- Whether a mode gets a rule on the way between two workspaces, if it has none before. -/
def Fills (grammar : Grammar) (mode : String) (space space' : Workspace) : Prop :=
  ∃ mid, Reaches grammar space mid ∧ (∃ rule, rule ∈ mid.lexer.rulesIn mode) ∧
    Reaches grammar mid space'

lemma Fills.extend {mode : String} {first last : Workspace} (h : Fills grammar mode space space')
    (hfirst : Reaches grammar first space) (hlast : Reaches grammar space' last) :
    Fills grammar mode first last := by
  rcases h with ⟨mid, hmid, hrule, hafter⟩
  exact ⟨mid, hfirst.trans hmid, hrule, hafter.trans hlast⟩

/-- **A token has its turn** on the way between two workspaces: it is written in full, unless it is
a literal of a BNF production for which a rule is found.  A token that is not private then gets a
rule in each other state of an explicit production. -/
inductive Turned (grammar : Grammar) (production : TokenProduction) (spec : TokenSpec)
    (space space' : Workspace) : Prop
  | written {body : Body} {commands : List Command} {kind : ProductionKind}
      {before after : Workspace} {stored : Option Rule}
      (hconverts : Converts grammar production spec body)
      (hcommands : FullCommands grammar production spec commands)
      (hbefore : Reaches grammar space before)
      (hadded : before.addRule (homeMode production) (fullRule production spec body commands) kind
        = (after, .ok stored))
      (hafter : Reaches grammar after space')
      (hfills : production.isExplicit = true → spec.isPrivate = false →
        ∀ state ∈ production.states, canonicalState? production.states ≠ some state →
          Fills grammar (modeName state) after space')
  | found {body : Body} {before : Workspace} {existing : Rule}
      (hconverts : Converts grammar production spec body)
      (himplicit : production.isExplicit = false)
      (hbefore : Reaches grammar space before)
      (hfound : before.lexer.ruleForBody? body = some existing)
      (hafter : Reaches grammar before space')

lemma Turned.reaches (h : Turned grammar production spec space space') :
    Reaches grammar space space' := by
  cases h with
  | written hconverts hcommands hbefore hadded hafter _ =>
      have hmove := Move.requested (.full hconverts hcommands) hadded
      exact (Relation.ReflTransGen.tail hbefore hmove).trans hafter
  | found _ _ hbefore _ hafter => exact hbefore.trans hafter

lemma Turned.extend {first last : Workspace} (h : Turned grammar production spec space space')
    (hfirst : Reaches grammar first space) (hlast : Reaches grammar space' last) :
    Turned grammar production spec first last := by
  cases h with
  | written hconverts hcommands hbefore hadded hafter hfills =>
      exact .written hconverts hcommands (hfirst.trans hbefore) hadded (hafter.trans hlast)
        fun hexplicit hpublic state hstate hne =>
          (hfills hexplicit hpublic state hstate hne).extend .refl hlast
  | found hconverts himplicit hbefore hfound hafter =>
      exact .found hconverts himplicit (hfirst.trans hbefore) hfound (hafter.trans hlast)

/-- All specifications of a production have their turns. -/
def AllTurned (grammar : Grammar) (production : TokenProduction) (specs : List TokenSpec)
    (space space' : Workspace) : Prop :=
  Reaches grammar space space' ∧ ∀ spec ∈ specs, Turned grammar production spec space space'

lemma AllTurned.cons {specs : List TokenSpec}
    (h : Turned grammar production spec space mid)
    (hrest : AllTurned grammar production specs mid space') :
    AllTurned grammar production (spec :: specs) space space' := by
  refine ⟨h.reaches.trans hrest.1, fun other hother => ?_⟩
  rcases List.mem_cons.mp hother with rfl | hother
  · exact h.extend .refl hrest.1
  · exact (hrest.2 other hother).extend h.reaches .refl

/-! ## Explicit productions -/

/-- The rule for the canonical state is the one in which the token is written in full. -/
lemma exists_fullRule (hexplicit : production.isExplicit = true)
    (hkind : production.kind = .known kind) (hcanonical : canonical ∈ production.states) :
    ∃ commands, FullCommands grammar production spec commands ∧
      stateRule (tokenSettings grammar) kind spec body canonical (givenName spec) canonical
        = fullRule production spec body commands := by
  cases hprivate : spec.isPrivate with
  | true =>
      refine ⟨[], .inl rfl, ?_⟩
      rw [stateRule, fullRule, hexplicit, hprivate, if_pos rfl]
      rfl
  | false =>
      refine ⟨_, .inr ⟨hexplicit, kind, hkind, canonical, hcanonical, rfl⟩, ?_⟩
      rw [stateRule, fullRule, hexplicit, hprivate, if_neg Bool.false_ne_true, if_pos rfl]
      rfl

lemma stateRule_eq_aliasRule (hpublic : spec.isPrivate = false) {state : String}
    (hstate : state ≠ canonical) :
    stateRule (tokenSettings grammar) kind spec body canonical target state
      = aliasRule grammar kind spec target state := by
  rw [stateRule, hpublic, if_neg Bool.false_ne_true, if_neg hstate, aliasRule]

/-- A rule that refers to another one is never dropped. -/
lemma exists_rule_of_aliasRule {state : String} {stored : Option Rule}
    (hsound : space.Sound grammar)
    (hadded : space.addRule (modeName state) (aliasRule grammar kind spec target state) kind
      = (space', .ok stored)) :
    ∃ rule ∈ space'.lexer.rulesIn (modeName state),
      rule.name = ruleName (state ++ "_" ++ target) ∧ rule.body = .text target := by
  have hgain := hsound.gain hadded
  have hnamed : (aliasRule grammar kind spec target state).name ≠ "" :=
    prefixed_ne_empty state target
  have hother : ruleName (state ++ "_" ++ target) ≠ target := ruleName_prefixed_ne state target
  cases stored with
  | some stored =>
      have hname : stored.name = ruleName (state ++ "_" ++ target) :=
        (stores_of_adding hsound.indexed (Workspace.adding_of_addRule hadded)).named hnamed
      refine ⟨stored, hgain.mem_stored.1, hname, hgain.mem_stored.2.resolve_right fun hself => ?_⟩
      exact hother (hname.symm.trans (Body.text.inj hself).symm)
  | none =>
      cases hgain with
      | dropped htakes hself =>
          cases htakes with
          | given _ hname => exact absurd (hname.symm.trans (Body.text.inj hself).symm) hother
          | drawn hempty => exact absurd hempty hnamed

/-- **The rules for the other states** are asked for one after another. -/
lemma reaches_aliases (hconverts : Converts grammar production spec body)
    (hexplicit : production.isExplicit = true) (hkind : production.kind = .known kind)
    (hpublic : spec.isPrivate = false) (states : List String) :
    ∀ (space : Workspace), space.Sound grammar →
      (∀ state ∈ states, state ∈ production.states ∧ state ≠ canonical) →
      (target = givenName spec ∨ ∃ mode, ∃ rule ∈ space.lexer.rulesIn mode, rule.name = target) →
      mapStates (tokenSettings grammar) kind spec body canonical states target space
        = (space', .ok ()) →
      Reaches grammar space space' ∧
        ∀ state ∈ states, Fills grammar (modeName state) space space' := by
  induction states with
  | nil =>
      intro space _ _ _ h
      rcases Prod.mk.inj h with ⟨rfl, -⟩
      exact ⟨.refl, by simp⟩
  | cons state states ih =>
      intro space hsound hstates htarget h
      rcases hstates state (by simp) with ⟨hmem, hne⟩
      rcases mapStates_other_cons_ok hsound hpublic hne h with
        ⟨mid, stored, hadded, hnoted, hmid, hrest⟩
      rw [stateRule_eq_aliasRule hpublic hne] at hadded
      have hmove : Move grammar (space.noting (privateWarning spec)) mid :=
        .requested (.aliased hconverts hexplicit hkind hpublic hmem htarget) hadded
      have hfirst : Reaches grammar space mid :=
        Relation.ReflTransGen.head (.noted space _) (.single hmove)
      have htarget' : target = givenName spec ∨
          ∃ mode, ∃ rule ∈ mid.lexer.rulesIn mode, rule.name = target := by
        refine htarget.imp_right ?_
        rintro ⟨mode, rule, hrule, hname⟩
        exact ⟨mode, rule, (hmove.rulesIn_grow hnoted mode).subset hrule, hname⟩
      rcases ih mid hmid (fun other hother => hstates other (by simp [hother])) htarget' hrest with
        ⟨hlast, hfills⟩
      refine ⟨hfirst.trans hlast, fun other hother => ?_⟩
      rcases List.mem_cons.mp hother with rfl | hother
      · rcases exists_rule_of_aliasRule hnoted hadded with ⟨rule, hrule, -⟩
        exact ⟨mid, hfirst, ⟨rule, hrule⟩, hlast⟩
      · exact (hfills other hother).extend hfirst .refl

lemma turned_of_mapSpec (hproduction : production ∈ grammar.tokenProductions)
    (hexplicit : production.isExplicit = true) (hkind : production.kind = .known kind)
    (hcanonical : canonicalState? production.states = some canonical)
    (hspec : spec ∈ production.specs) (hsound : space.Sound grammar)
    (h : mapSpec (tokenSettings grammar) production kind canonical
      (canonicalFirst canonical production.states) spec space = (space', .ok ())) :
    Turned grammar production spec space space' := by
  rw [mapSpec] at h
  split at h
  · cases h
  · rename_i body hbody
    have hconverts : Converts grammar production spec body := ⟨hproduction, hspec, hbody⟩
    obtain ⟨commands, hcommands, hrule⟩ : ∃ commands,
        FullCommands grammar production spec commands ∧
          stateRule (tokenSettings grammar) kind spec body canonical (givenName spec) canonical
            = fullRule production spec body commands :=
      exists_fullRule hexplicit hkind (canonicalState?_mem hcanonical)
    rcases mapStates_cons_ok (by simp) h with ⟨mid, stored, hadded, hrest⟩
    rw [if_pos rfl] at hrest
    have hgiven : (spec.label?.map ruleName).getD "" = givenName spec := rfl
    rw [hgiven] at hadded hrest
    rw [hrule, ← homeMode_of_explicit hexplicit hcanonical] at hadded
    have hmid : mid.Sound grammar :=
      Move.sound (hsound.noting _) (.requested (.full hconverts hcommands) hadded)
    cases hprivate : spec.isPrivate with
    | true =>
        rw [mapStates_private hprivate (by simp)] at hrest
        rcases Prod.mk.inj hrest with ⟨rfl, -⟩
        refine .written hconverts hcommands (.single (.noted space _)) hadded .refl ?_
        intro _ hpublic
        rw [hprivate] at hpublic
        exact Bool.noConfusion hpublic
    | false =>
        have hstates : ∀ state ∈ production.states.filter (fun state => state ≠ canonical),
            state ∈ production.states ∧ state ≠ canonical := by
          intro state hstate
          rcases List.mem_filter.mp hstate with ⟨hmem, hne⟩
          exact ⟨hmem, of_decide_eq_true hne⟩
        have htarget := ((hsound.noting (privateWarning spec)).gain hadded).exists_named
          (givenName spec)
        rcases reaches_aliases hconverts hexplicit hkind hprivate _ mid hmid hstates htarget hrest
          with ⟨hlast, hfills⟩
        refine .written hconverts hcommands (.single (.noted space _)) hadded hlast ?_
        intro _ _ state hstate hne
        rw [hcanonical, Ne, Option.some_inj] at hne
        exact hfills state (List.mem_filter.mpr ⟨hstate, decide_eq_true (Ne.symm hne)⟩)

lemma turned_of_mapSpecs (hproduction : production ∈ grammar.tokenProductions)
    (hexplicit : production.isExplicit = true) (hkind : production.kind = .known kind)
    (hcanonical : canonicalState? production.states = some canonical) (specs : List TokenSpec) :
    ∀ (space : Workspace), (∀ spec ∈ specs, spec ∈ production.specs) → space.Sound grammar →
      mapSpecs (tokenSettings grammar) production kind canonical
        (canonicalFirst canonical production.states) specs space = (space', .ok ()) →
      AllTurned grammar production specs space space' := by
  induction specs with
  | nil =>
      intro space _ _ h
      rcases Prod.mk.inj h with ⟨rfl, -⟩
      exact ⟨.refl, by simp⟩
  | cons spec specs ih =>
      intro space hspecs hsound h
      rw [mapSpecs] at h
      split at h
      · cases h
      · rename_i mid hmapped
        have hturned := turned_of_mapSpec hproduction hexplicit hkind hcanonical
          (hspecs spec (by simp)) hsound hmapped
        exact .cons hturned (ih mid (fun other hother => hspecs other (by simp [hother]))
          (hturned.reaches.sound hsound) h)

lemma reaches_addModes (states : List String) (space : Workspace) :
    Reaches grammar space (space.addModes states) := by
  induction states generalizing space with
  | nil => exact .refl
  | cons state states ih => exact .head (.registered space (modeName state)) (ih _)

lemma turned_of_mapProduction (hproduction : production ∈ grammar.tokenProductions)
    (hexplicit : production.isExplicit = true) (hsound : space.Sound grammar)
    (h : mapProduction (tokenSettings grammar) production space = (space', .ok ())) :
    AllTurned grammar production production.specs space space' := by
  rcases exists_mapSpecs hexplicit h with ⟨kind, canonical, hkind, hcanonical, hmapped⟩
  have hmodes : Reaches grammar space (space.addModes production.states) :=
    reaches_addModes production.states space
  rcases turned_of_mapSpecs hproduction hexplicit hkind hcanonical production.specs _
    (fun _ hspec => hspec) (hmodes.sound hsound) hmapped with ⟨hreaches, hturned⟩
  exact ⟨hmodes.trans hreaches, fun spec hspec => (hturned spec hspec).extend hmodes .refl⟩

/-! ## Literals of BNF productions -/

lemma promoteSpecs_cons_ok {specs : List TokenSpec}
    (h : promoteSpecs (tokenSettings grammar) production (spec :: specs) space
      = (space', .ok ())) :
    ∃ body, specBody (tokenSettings grammar) production spec = .ok body ∧
      ((∃ found, space.lexer.ruleForBody? body = some found ∧
          promoteSpecs (tokenSettings grammar) production specs space = (space', .ok ())) ∨
        space.lexer.ruleForBody? body = none ∧ ∃ records mid stored,
          (space.noting records).addRule defaultMode { name := givenName spec, body := body }
            .token = (mid, .ok stored) ∧
          promoteSpecs (tokenSettings grammar) production specs mid = (space', .ok ())) := by
  rw [promoteSpecs] at h
  split at h
  · cases h
  · rename_i body hbody
    refine ⟨body, hbody, ?_⟩
    split at h
    · rename_i found hfound
      exact .inl ⟨found, hfound, h⟩
    · rename_i hnone
      dsimp only at h
      split at h
      · cases h
      · rename_i mid stored hadded
        exact .inr ⟨hnone, _, mid, stored, hadded, h⟩

/-- The rule for a literal is the one in which its token is written in full, without commands. -/
lemma fullRule_of_implicit (himplicit : production.isExplicit = false) :
    fullRule production spec body [] = { name := givenName spec, body := body } := by
  rw [fullRule, himplicit]
  rfl

lemma turned_of_promoteSpecs (hproduction : production ∈ grammar.tokenProductions)
    (himplicit : production.isExplicit = false) (specs : List TokenSpec) :
    ∀ (space : Workspace), (∀ spec ∈ specs, spec ∈ production.specs) →
      promoteSpecs (tokenSettings grammar) production specs space = (space', .ok ()) →
      AllTurned grammar production specs space space' := by
  induction specs with
  | nil =>
      intro space _ h
      rcases Prod.mk.inj h with ⟨rfl, -⟩
      exact ⟨.refl, by simp⟩
  | cons spec specs ih =>
      intro space hspecs h
      have hlater : ∀ other ∈ specs, other ∈ production.specs := fun other hother =>
        hspecs other (by simp [hother])
      rcases promoteSpecs_cons_ok h with ⟨body, hbody, hturn⟩
      have hconverts : Converts grammar production spec body :=
        ⟨hproduction, hspecs spec (by simp), hbody⟩
      rcases hturn with ⟨found, hfound, hrest⟩ | ⟨-, records, mid, stored, hadded, hrest⟩
      · exact .cons (.found hconverts himplicit .refl hfound .refl) (ih space hlater hrest)
      · rw [← fullRule_of_implicit himplicit, ← homeMode_of_implicit himplicit] at hadded
        have hfills : production.isExplicit = true → spec.isPrivate = false →
            ∀ state ∈ production.states, canonicalState? production.states ≠ some state →
              Fills grammar (modeName state) mid mid :=
          fun hexplicit => absurd (himplicit.symm.trans hexplicit) Bool.false_ne_true
        exact .cons (.written hconverts (.inl rfl) (.single (.noted space records)) hadded .refl
          hfills) (ih mid hlater hrest)

/-! ## Whole grammars -/

lemma turned_of_convertTokenProductions (productions : List TokenProduction) :
    ∀ (space : Workspace), (∀ production ∈ productions, production ∈ grammar.tokenProductions) →
      space.Sound grammar →
      convertTokenProductions (tokenSettings grammar) productions space = (space', .ok ()) →
      Reaches grammar space space' ∧ ∀ production ∈ productions, ∀ spec ∈ production.specs,
        Turned grammar production spec space space' := by
  induction productions with
  | nil =>
      intro space _ _ h
      rcases Prod.mk.inj h with ⟨rfl, -⟩
      exact ⟨.refl, by simp⟩
  | cons production productions ih =>
      intro space hproductions hsound h
      have hproduction := hproductions production (by simp)
      rw [convertTokenProductions] at h
      split at h
      · cases h
      · rename_i mid hstep
        have hfirst : AllTurned grammar production production.specs space mid := by
          split at hstep
          · rename_i hexplicit
            exact turned_of_mapProduction hproduction hexplicit hsound hstep
          · rename_i himplicit
            exact turned_of_promoteSpecs hproduction ((Bool.not_eq_true _).mp himplicit)
              production.specs space (fun _ hspec => hspec) hstep
        rcases ih mid (fun other hother => hproductions other (by simp [hother]))
          (hfirst.1.sound hsound) h with ⟨hreaches, hturned⟩
        refine ⟨hfirst.1.trans hreaches, fun other hother spec hspec => ?_⟩
        rcases List.mem_cons.mp hother with rfl | hother
        · exact (hfirst.2 spec hspec).extend .refl hreaches
        · exact (hturned other hother spec hspec).extend hfirst.1 .refl

/-- **Every token of a grammar has its turn** in a conversion that goes through. -/
lemma turned_of_convertTokens {name : String}
    (h : convertTokens name grammar = (space', .ok ()))
    (hproduction : production ∈ grammar.tokenProductions) (hspec : spec ∈ production.specs) :
    Turned grammar production spec (initialWorkspace name grammar) space' :=
  (turned_of_convertTokenProductions grammar.tokenProductions _ (fun _ hmem => hmem)
    (Workspace.sound_initialWorkspace name grammar) h).2 production hproduction spec hspec

/-- **A conversion that goes through is a sequence of moves.** -/
lemma reaches_convertTokens {name : String}
    (h : convertTokens name grammar = (space', .ok ())) :
    Reaches grammar (initialWorkspace name grammar) space' :=
  (turned_of_convertTokenProductions grammar.tokenProductions _ (fun _ hmem => hmem)
    (Workspace.sound_initialWorkspace name grammar) h).1

/-- **The default mode is there from the beginning.** -/
lemma defaultMode_mem_of_convertTokens {name : String}
    (h : convertTokens name grammar = (space', .ok ())) :
    defaultMode ∈ space'.lexer.modes.map Mode.name := by
  refine (reaches_convertTokens h).keepsShape.names.subset ?_
  rw [initialWorkspace]
  cases grammar.usesIgnoreCase <;> exact List.mem_cons_self

/-- **A whole conversion that goes through** has converted the tokens first, and then the
productions with the finished lexer. -/
lemma of_convert_eq_ok {name : String} {pair : GrammarPair}
    (h : (convert name grammar).result = .ok pair) :
    ∃ space, convertTokens (name ++ "Lexer") grammar = (space, .ok ()) ∧
      pair.lexer = space.lexer ∧
      parserRules grammar pair.lexer grammar.bnfProductions = .ok pair.parser.rules := by
  rw [convert] at h
  dsimp only at h
  split at h
  · cases h
  · rename_i hok
    refine ⟨_, Prod.ext rfl hok, ?_⟩
    cases hrules : parserRules grammar (convertTokens (name ++ "Lexer") grammar).1.lexer
        grammar.bnfProductions with
    | error failure =>
        rw [hrules] at h
        cases h
    | ok rules =>
        rw [hrules] at h
        cases h
        exact ⟨rfl, hrules⟩

end Moves

end GrammarConversion.Conversion
