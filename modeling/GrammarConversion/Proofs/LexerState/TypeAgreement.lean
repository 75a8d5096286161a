import GrammarConversion.Proofs.LexerState.Course
import GrammarConversion.Proofs.LexerState.TokenTypes

/-!
# Agreement on token types

The parser is told of a token by the name of one rule, whichever mode has matched it.  So every rule
that refers to another one from a lexical state has to give the type of a rule that is there, and
that rule has to match what the token matches.

**What is told apart.**  The name of the rule that is written in full is known only when it is
stored: the rule may be one from before, and it may stand in for a letter.  The name is then passed
on to the other states, where nothing is looked up any more.  So agreement is kept turn by turn
(`Turn.GoesThrough.typesAgree`): rules that give types are new only in turns whose own rule is there
already, and it is no fragment, since labels are different.

**`tokenTypes_agree`: the types that are given are the names of rules,** and every token has its
rules in all of its states.
-/

namespace GrammarConversion.Antlr

/-- The type that a command gives, if it gives any. -/
def Command.type? : Command → Option String
  | .type rule => some rule
  | _ => none

/-- The types that a rule gives its tokens, one for each command that does. -/
def Rule.types (rule : Rule) : List String :=
  rule.commands.filterMap Command.type?

lemma Rule.mem_types {rule : Rule} {target : String} :
    target ∈ rule.types ↔ .type target ∈ rule.commands := by
  rw [types, List.mem_filterMap]
  constructor
  · rintro ⟨command, hcommand, htype⟩
    cases command with
    | type other =>
        rw [← Option.some.inj htype]
        exact hcommand
    | _ => cases htype
  · exact fun h => ⟨.type target, h, rfl⟩

end GrammarConversion.Antlr

namespace GrammarConversion.Conversion

open Antlr
open LexerGrammar
open Model
open NameSupply

/-- **Whether a token rule has a name,** in any mode. -/
def HasTokenNamed (lexer : LexerGrammar) (name : String) : Prop :=
  ∃ mode, ∃ rule ∈ lexer.rulesIn mode, rule.isFragment = false ∧ rule.name = name

/-- **Whether the types that rules give are the names of token rules,** and fragments have no
commands. -/
structure TypesAgree (lexer : LexerGrammar) : Prop where
  types : ∀ mode, ∀ rule ∈ lexer.rulesIn mode, ∀ target, .type target ∈ rule.commands →
    HasTokenNamed lexer target
  fragments : ∀ mode, ∀ rule ∈ lexer.rulesIn mode, rule.isFragment = true → rule.commands = []

/-- **The rule in which the token of a turn is written in full,** and the rules of the other states
that refer to it. -/
structure Turn.WrittenAs (grammar : Grammar) (turn : Turn) (lexer : LexerGrammar) (rule : Rule) :
    Prop where
  stored : turn.canonicalRule? (tokenSettings grammar) = some rule
  mem : rule ∈ lexer.rulesIn (modeName turn.canonical)
  isToken : rule.isFragment = false
  /-- The rule has the body of the token, or that of a letter whose name is the body. -/
  body : ∃ body, specBody (tokenSettings grammar) turn.production turn.spec = .ok body ∧
    (rule.body = body ∨ ∃ letter ∈ allLetterRules, body = .text letter.name ∧
      rule.name = letter.name ∧ rule.body = letter.body)
  others : ∀ state ∈ turn.production.states, state ≠ turn.canonical →
    ∃ other ∈ lexer.rulesIn (modeName state),
      other.name = ruleName (state ++ "_" ++ rule.name) ∧ other.body = .text rule.name

section Agreement

variable {grammar : Grammar} {lexer lexer' : LexerGrammar} {space mid space' : Workspace}
  {turn : Turn} {kind : ProductionKind} {spec : TokenSpec} {body : Body}
  {canonical target mode : String} {rule stored : Rule} {result : Option Rule}
  {reserved : List String}

/-! ## One type for each rule -/

lemma type?_eq_none_of_ne {command : Command} (h : ∀ other, command ≠ .type other) :
    command.type? = none := by
  cases command with
  | type other => exact absurd rfl (h other)
  | _ => rfl

lemma filterMap_type?_eq_nil {commands : List Command} (h : ∀ other, .type other ∉ commands) :
    commands.filterMap Command.type? = [] := by
  refine List.filterMap_eq_nil_iff.mpr fun command hcommand => type?_eq_none_of_ne ?_
  rintro other rfl
  exact h other hcommand

lemma types_aliasRule (grammar : Grammar) (kind : ProductionKind) (spec : TokenSpec)
    (target state : String) :
    (aliasRule grammar kind spec target state).types = if kind = .token then [target] else [] := by
  rw [Rule.types, aliasRule, List.filterMap_append, List.filterMap_append,
    filterMap_type?_eq_nil (type_notMem_kindCommands kind),
    filterMap_type?_eq_nil (type_notMem_stateCommands _ spec state), List.append_nil,
    List.nil_append]
  split <;> rfl

/-- **No rule gives two types.** -/
lemma types_eq_of_convertTokens {name : String}
    (hrun : convertTokens name grammar = (space, .ok ())) (hrule : rule ∈ space.lexer.rulesIn mode)
    (htype : .type target ∈ rule.commands) : rule.types = [target] := by
  have hsingle : ∀ mode, ∀ existing ∈ space.lexer.rulesIn mode, ∀ other ∈ existing.types,
      existing.types = [other] := by
    refine (reaches_convertTokens hrun).forall_rules
      (Workspace.sound_initialWorkspace name grammar)
      (fun {lexer mode asked stored} hrequest hnew _ other hother => ?_)
      (by simp [Workspace.rulesIn_initialWorkspace])
    have hsame : stored.types = asked.types := congrArg (List.filterMap _) hnew.commands
    rw [hsame] at hother ⊢
    cases hrequest with
    | full _ hcommands =>
        exact absurd (Rule.mem_types.mp hother) (hcommands.type_notMem other)
    | aliased =>
        rw [types_aliasRule] at hother ⊢
        split at hother
        · rw [if_pos ‹_›, List.mem_singleton.mp hother]
        · exact absurd hother List.not_mem_nil
  exact hsingle mode rule hrule target (Rule.mem_types.mpr htype)

/-! ## Additions -/

lemma HasTokenNamed.of_gain {name : String} (h : HasTokenNamed lexer name)
    (hgain : Gain reserved lexer mode rule lexer' result) : HasTokenNamed lexer' name := by
  rcases h with ⟨other, existing, hexisting, htoken, hname⟩
  exact ⟨other, existing, hgain.subset hexisting, htoken, hname⟩

/-- **An addition keeps agreement** if the types of its own rule are names of rules. -/
lemma TypesAgree.gain (h : TypesAgree lexer) (hgain : Gain reserved lexer mode rule lexer' result)
    (htypes : ∀ target, .type target ∈ rule.commands → HasTokenNamed lexer target)
    (hfragment : rule.isFragment = true → rule.commands = []) : TypesAgree lexer' := by
  refine ⟨fun other existing hexisting target htype => ?_, fun other existing hexisting => ?_⟩
  · rcases hgain.mem_rulesIn hexisting with hbefore | ⟨-, hnew⟩
    · exact (h.types other existing hbefore target htype).of_gain hgain
    · rw [hnew.commands] at htype
      exact (htypes target htype).of_gain hgain
  · rcases hgain.mem_rulesIn hexisting with hbefore | ⟨-, hnew⟩
    · exact h.fragments other existing hbefore
    · rw [hnew.fragment, hnew.commands]
      exact hfragment

lemma TypesAgree.of_rulesIn (h : TypesAgree lexer)
    (hrules : ∀ mode, lexer'.rulesIn mode = lexer.rulesIn mode) : TypesAgree lexer' := by
  refine ⟨?_, ?_⟩
  · simpa only [HasTokenNamed, hrules] using h.types
  · simpa only [hrules] using h.fragments

/-! ## The other states -/

/-- **The rules for the other states** are there, whether they are new or not. -/
lemma exists_aliases (hpublic : spec.isPrivate = false) (states : List String) :
    ∀ (space : Workspace), space.Sound grammar → (∀ state ∈ states, state ≠ canonical) →
      mapStates (tokenSettings grammar) kind spec body canonical states target space
        = (space', .ok ()) →
      ∀ state ∈ states, ∃ other ∈ space'.lexer.rulesIn (modeName state),
        other.name = ruleName (state ++ "_" ++ target) ∧ other.body = .text target := by
  induction states with
  | nil => exact fun _ _ _ _ state hstate => absurd hstate List.not_mem_nil
  | cons first states ih =>
      intro space hsound hstates h state hstate
      have hfirst := hstates first (by simp)
      rcases mapStates_other_cons_ok hsound hpublic hfirst h with
        ⟨mid, stored, hadded, hnoted, hmid, hrest⟩
      rcases List.mem_cons.mp hstate with rfl | hlater
      · rw [stateRule_eq_aliasRule hpublic hfirst] at hadded
        rcases exists_rule_of_aliasRule hnoted hadded with ⟨other, hother, hnamed⟩
        exact ⟨other, (rulesIn_prefix_of_mapStates hpublic _ states target mid hmid hrest).subset
          hother, hnamed⟩
      · exact ih mid hmid (fun other hother => hstates other (by simp [hother])) hrest state hlater

/-- **The rules for the other states keep agreement** if the rule that they refer to is there. -/
lemma TypesAgree.mapStates (hpublic : spec.isPrivate = false) (states : List String) :
    ∀ (space : Workspace), space.Sound grammar → (∀ state ∈ states, state ≠ canonical) →
      TypesAgree space.lexer → HasTokenNamed space.lexer target →
      mapStates (tokenSettings grammar) kind spec body canonical states target space
        = (space', .ok ()) → TypesAgree space'.lexer := by
  induction states with
  | nil =>
      intro space _ _ hagree _ h
      rcases Prod.mk.inj h with ⟨rfl, -⟩
      exact hagree
  | cons first states ih =>
      intro space hsound hstates hagree hnamed h
      have hfirst := hstates first (by simp)
      rcases mapStates_other_cons_ok hsound hpublic hfirst h with
        ⟨mid, stored, hadded, hnoted, hmid, hrest⟩
      have hgain := hnoted.gain hadded
      rw [stateRule_eq_aliasRule hpublic hfirst] at hgain
      have hagree' : TypesAgree mid.lexer := by
        refine hagree.gain hgain (fun other htype => ?_)
          (fun hfragment => Bool.noConfusion hfragment)
        rw [eq_of_type_mem_aliasRule htype]
        exact hnamed
      exact ih mid hmid (fun other hother => hstates other (by simp [hother])) hagree'
        (hnamed.of_gain hgain) hrest

/-! ## Turns -/

lemma filter_states_ne (turn : Turn) :
    ∀ state ∈ turn.production.states.filter (fun state => state ≠ turn.canonical),
      state ≠ turn.canonical :=
  fun _ hstate => of_decide_eq_true (List.mem_filter.mp hstate).2

/-- **The rule in the canonical state** is a token rule, if labels are different. -/
lemma Turn.GoesThrough.isFragment_canonicalRule
    (h : turn.GoesThrough (tokenSettings grammar) grammar) (hlabels : (reservedNames grammar).Nodup)
    (hpublic : turn.spec.isPrivate = false)
    (hadded : (turn.before.noting (privateWarning turn.spec)).addRule (modeName turn.canonical)
        (stateRule (tokenSettings grammar) turn.kind turn.spec body turn.canonical
          (givenName turn.spec) turn.canonical) turn.kind = (mid, .ok (some stored))) :
    stored.isFragment = false :=
  isFragment_of_addRule_canonical (h.sound.noting _) hpublic h.spec_mem_specs
    (fun _ hlabel => not_privateName_of_nodup hlabels h.production_mem h.spec_mem hpublic hlabel)
    hadded

/-- **A turn keeps agreement.** -/
lemma Turn.GoesThrough.typesAgree (h : turn.GoesThrough (tokenSettings grammar) grammar)
    (hlabels : (reservedNames grammar).Nodup)
    (hkept : turn.spec.isPrivate = false →
      (turn.canonicalRule? (tokenSettings grammar)).isSome = true)
    (hagree : TypesAgree turn.before.lexer) : TypesAgree turn.after.lexer := by
  have hnoted := h.sound.noting (privateWarning turn.spec)
  cases hprivate : turn.spec.isPrivate with
  | true =>
      rcases h.exists_private hprivate with ⟨body, stored, -, hadded⟩
      have hgain := hnoted.gain hadded
      rw [stateRule, if_pos hprivate] at hgain
      exact hagree.gain hgain (fun _ htype => absurd htype List.not_mem_nil) fun _ => rfl
  | false =>
      rcases h.exists_canonical hprivate with ⟨body, mid, -, hadded, hrest⟩
      rcases Option.isSome_iff_exists.mp (hkept hprivate) with ⟨stored, hstored⟩
      rw [hstored] at hadded hrest
      have htoken := h.isFragment_canonicalRule hlabels hprivate hadded
      have hgain := hnoted.gain hadded
      have hmid : TypesAgree mid.lexer := by
        rw [stateRule_canonical _ _ hprivate] at hgain
        refine hagree.gain hgain (fun other htype => ?_)
          (fun hfragment => Bool.noConfusion hfragment)
        rcases List.mem_append.mp htype with hmem | hmem
        · exact absurd hmem (type_notMem_kindCommands turn.kind other)
        · exact absurd hmem (type_notMem_stateCommands _ turn.spec turn.canonical other)
      exact TypesAgree.mapStates hprivate _ mid (sound_addRule_public hnoted hprivate hadded)
        (filter_states_ne turn) hmid ⟨_, stored, hgain.mem_stored.1, htoken, rfl⟩ hrest

/-- **A stored rule has the body that was asked for,** or that of the letter whose name it has. -/
lemma Workspace.Sound.body_eq_or_letter (hsound : space.Sound grammar)
    (hadded : space.addRule mode rule kind = (space', .ok (some stored))) :
    stored.body = rule.body ∨ ∃ letter ∈ allLetterRules, rule.body = .text letter.name ∧
      stored.name = letter.name ∧ stored.body = letter.body := by
  have hstores := stores_of_adding hsound.indexed (Workspace.adding_of_addRule hadded)
  rcases hstores.settled.standsFor with hbody | ⟨letter, hletter, hwanted, hbody⟩
  · exact .inl hbody
  · rcases (hsound.gain hadded).mem_stored.2 with hsame | hname
    · exact .inl hsame
    · exact .inr ⟨letter, (hsound.letters letter hletter).2, hwanted,
        Body.text.inj (hname.symm.trans hwanted), hbody⟩

/-- **A token that is not private** is written in full in one state, and the others refer to it. -/
lemma Turn.GoesThrough.exists_writtenAs (h : turn.GoesThrough (tokenSettings grammar) grammar)
    (hlabels : (reservedNames grammar).Nodup) (hpublic : turn.spec.isPrivate = false)
    (hkept : (turn.canonicalRule? (tokenSettings grammar)).isSome = true)
    (hlater : ∀ mode, turn.after.lexer.rulesIn mode <+: lexer.rulesIn mode) :
    ∃ rule, turn.WrittenAs grammar lexer rule := by
  have hnoted := h.sound.noting (privateWarning turn.spec)
  rcases Option.isSome_iff_exists.mp hkept with ⟨stored, hstored⟩
  rcases h.exists_canonical hpublic with ⟨body, mid, hbody, hadded, hrest⟩
  rw [hstored] at hadded hrest
  have hbodies := hnoted.body_eq_or_letter hadded
  rw [stateRule_canonical _ _ hpublic] at hbodies
  refine ⟨stored, hstored, (hlater _).subset (h.canonicalRule_mem hpublic hstored),
    h.isFragment_canonicalRule hlabels hpublic hadded, ⟨body, hbody, hbodies⟩, ?_⟩
  intro state hstate hne
  rcases exists_aliases hpublic _ mid (sound_addRule_public hnoted hpublic hadded)
    (filter_states_ne turn) hrest state (List.mem_filter.mpr ⟨hstate, decide_eq_true hne⟩) with
    ⟨other, hother, hnamed⟩
  exact ⟨other, (hlater _).subset hother, hnamed⟩

/-! ## Whole grammars -/

/-- **A course keeps agreement.** -/
lemma Course.typesAgree {turns : List Turn} (h : Course grammar space turns space')
    (hlabels : (reservedNames grammar).Nodup)
    (hkept : ∀ turn ∈ turns, turn.spec.isPrivate = false →
      (turn.canonicalRule? (tokenSettings grammar)).isSome = true)
    (hagree : TypesAgree space.lexer) : TypesAgree space'.lexer := by
  induction h with
  | done hrules => exact hagree.of_rulesIn hrules
  | turned hrules hturn _ ih =>
      exact ih (fun other hother => hkept other (by simp [hother]))
        (hturn.typesAgree hlabels (hkept _ (by simp)) (hagree.of_rulesIn hrules))
  | promoted hrules hsound hadded _ ih =>
      exact ih hkept ((hagree.of_rulesIn hrules).gain (hsound.gain hadded)
        (fun _ htype => absurd htype List.not_mem_nil) fun _ => rfl)

/-- **Token types agree between states.**  Let the token productions of a grammar be converted, let
its labels be different as names of rules, and let no token that is not private be dropped since it
only stands for itself.

Then a rule that gives a type is a token rule that refers to the rule of that name, it gives no
other type, and there is a token rule of that name; and no fragment has commands.

The turns are the tokens of the explicit productions.  A token that is not private is written in
full in its canonical state, and every other state has a rule that refers to the rule as it is
stored there.  A private token adds nothing to any other mode. -/
theorem tokenTypes_agree {name : String} (hrun : convertTokens name grammar = (space, .ok ()))
    (hlabels : (reservedNames grammar).Nodup)
    (hkept : ∀ turn ∈ explicitTokenTurns name grammar, turn.spec.isPrivate = false →
      (turn.canonicalRule? (tokenSettings grammar)).isSome = true) :
    (∀ rule ∈ space.lexer.rules, ∀ target, .type target ∈ rule.commands →
      rule.isFragment = false ∧ rule.body = .text target ∧ rule.types = [target] ∧
        ∃ named ∈ space.lexer.rules, named.isFragment = false ∧ named.name = target) ∧
      (∀ rule ∈ space.lexer.rules ++ space.lexer.letterRules, rule.isFragment = true →
        rule.commands = []) ∧
      (explicitTokenTurns name grammar).map Turn.source
        = sources (grammar.tokenProductions.filter TokenProduction.isExplicit) ∧
      ∀ turn ∈ explicitTokenTurns name grammar,
        turn.production.kind = .known turn.kind ∧
          canonicalState? turn.production.states = some turn.canonical ∧
          (turn.spec.isPrivate = false → ∃ rule, turn.WrittenAs grammar space.lexer rule) ∧
          (turn.spec.isPrivate = true → ∀ mode, mode ≠ modeName turn.canonical →
            turn.after.lexer.rulesIn mode = turn.before.lexer.rulesIn mode) := by
  have hcourse := course_convertTokens hrun
  have haccounted := accounted_of_convertTokens hrun
  have hagree := hcourse.typesAgree hlabels hkept
    ⟨by simp [Workspace.rulesIn_initialWorkspace], by simp [Workspace.rulesIn_initialWorkspace]⟩
  refine ⟨fun rule hrule target htype => ?_, fun rule hrule hfragment => ?_,
    explicitTokenTurns_source hrun, fun turn hturn => ?_⟩
  · rcases haccounted.distinctModes.exists_mode hrule with ⟨mode, hmem⟩
    have hrefers := haccounted.refersTo_of_type hmem htype
    rcases hagree.types mode rule hmem target htype with ⟨other, named, hnamed, htoken, hname⟩
    exact ⟨hrefers.isToken, hrefers.body, types_eq_of_convertTokens hrun hmem htype, named,
      mem_rules_of_mem_rulesIn hnamed, htoken, hname⟩
  · rcases List.mem_append.mp hrule with hmem | hletter
    · rcases haccounted.distinctModes.exists_mode hmem with ⟨mode, hmode⟩
      exact hagree.fragments mode rule hmode hfragment
    · exact letter_commands rule (haccounted.sound.letters rule hletter).2
  · rcases hcourse.goesThrough hturn with ⟨hgoes, hlater⟩
    rcases mem_explicitTurns _ _ hturn with ⟨hkind, hcanonical⟩
    refine ⟨hkind, hcanonical, fun hpublic => ?_, fun hprivate mode hmode => ?_⟩
    · exact hgoes.exists_writtenAs hlabels hpublic (hkept turn hturn hpublic) hlater
    · rcases hgoes.exists_private hprivate with ⟨body, stored, -, hadded⟩
      exact ((hgoes.sound.noting _).gain hadded).rulesIn_of_ne hmode

end Agreement

/-- The token of a letter is written as the set of the letter, and its second state gives the type
of the letter. -/
theorem tokenTypes_agree_wordGrammar :
    ∃ rule ∈ (convertTokens "L" (wordGrammar "A" "a")).1.lexer.rules,
      rule.name = "S_A" ∧ rule.types = ["A"] ∧
        ∃ named ∈ (convertTokens "L" (wordGrammar "A" "a")).1.lexer.rules,
          named.isFragment = false ∧ named.name = "A" := by
  have hok : (convertTokens "L" (wordGrammar "A" "a")).2 = .ok () := rfl
  have hkept : ∀ turn ∈ explicitTokenTurns "L" (wordGrammar "A" "a"),
      turn.spec.isPrivate = false →
        (turn.canonicalRule? (tokenSettings (wordGrammar "A" "a"))).isSome = true := by
    intro turn hturn _
    rw [List.mem_singleton.mp hturn]
    rfl
  have hrule : { name := "S_A", body := .text "A", commands := [.type "A"] }
      ∈ (convertTokens "L" (wordGrammar "A" "a")).1.lexer.rules := by decide +kernel
  rcases (tokenTypes_agree (Prod.ext rfl hok) (by decide) hkept).1 _ hrule "A"
    List.mem_cons_self with ⟨-, -, htypes, hnamed⟩
  exact ⟨_, hrule, rfl, htypes, hnamed⟩

end GrammarConversion.Conversion
