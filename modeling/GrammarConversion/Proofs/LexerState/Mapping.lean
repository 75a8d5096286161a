import GrammarConversion.Proofs.LexerState.Workspace

/-!
# The rules of a token for its states

A token has a rule in its canonical state, and in each other state a rule that refers to it.  These
rules are added one after another, the canonical one first.

A rule that is added `Serves` a body: it matches what the body matches, and it is no fragment.
Whether two bodies match the same is asked of any relation `accepts` between bodies and texts, so
long as it takes the name of a letter for the letter in either case (`RespectsLetters`).

* `addRule_canonical` and `addRule_alias` are about one rule, and `mapStates_aliases` is about all
  the rules that refer to the canonical one.
* `addRule_private` is about the rule for a private token, which is a fragment.
* `sound_mapSpec` and `rulesIn_prefix_of_mapStates`: the workspace stays sound, and rules are only
  ever added at the end of a mode.
-/

namespace GrammarConversion.Conversion

open Antlr
open LexerGrammar
open Model
open NameSupply

/-! ## Bodies that match the same -/

section Accepting

variable (accepts : Body → String → Prop)

/-- Where case may not matter, the name of a letter matches the letter in either case. -/
def RespectsLetters (grammar : Grammar) : Prop :=
  grammar.usesIgnoreCase = true → ∀ letter ∈ allLetterRules, ∀ word,
    accepts (.text letter.name) word ↔ accepts letter.body word

/-- **A mode serves a body by a stored rule** that matches what the body matches. -/
structure Serves (rule : Rule) (wanted : Body) (rules rules' : List Rule) (stored : Rule) :
    Prop where
  grows : Grows rule stored rules rules'
  isToken : stored.isFragment = false
  accepts_iff : ∀ word, accepts stored.body word ↔ accepts wanted word

variable {accepts}

lemma Workspace.Sound.accepts_iff {grammar : Grammar} {space : Workspace}
    (hsound : space.Sound grammar) (hletters : RespectsLetters accepts grammar)
    {wanted stored : Body} (h : StandsFor space.lexer wanted stored) (word : String) :
    accepts stored word ↔ accepts wanted word := by
  rcases h with rfl | ⟨letter, hletter, rfl, rfl⟩
  · exact Iff.rfl
  · rcases hsound.letters letter hletter with ⟨huses, hmem⟩
    exact (hletters huses letter hmem word).symm

end Accepting

/-! ## One state after another -/

/-- The name that the label of a token gives to its canonical rule; without a label it has none. -/
def givenName (spec : TokenSpec) : String :=
  (spec.label?.map ruleName).getD ""

section States

variable {settings : TokenSettings} {kind : ProductionKind} {spec : TokenSpec} {body : Body}
  {canonical target state : String} {states : List String} {space space' : Workspace}

lemma isFragment_stateRule (settings : TokenSettings) (kind : ProductionKind) (spec : TokenSpec)
    (body : Body) (canonical target state : String) :
    (stateRule settings kind spec body canonical target state).isFragment = spec.isPrivate := by
  rw [stateRule]
  split
  · rename_i hprivate
    exact hprivate.symm
  · rename_i hpublic
    split <;> exact ((Bool.not_eq_true _).mp hpublic).symm

lemma stateRule_self (settings : TokenSettings) (kind : ProductionKind) (spec : TokenSpec)
    (body : Body) (canonical target : String) :
    (stateRule settings kind spec body canonical target canonical).name = target ∧
      (stateRule settings kind spec body canonical target canonical).body = body := by
  rw [stateRule]
  split
  · exact ⟨rfl, rfl⟩
  · rw [if_pos rfl]
    exact ⟨rfl, rfl⟩

lemma mapStates_cons_ok (hnow : ¬(spec.isPrivate && state ≠ canonical) = true)
    (h : mapStates settings kind spec body canonical (state :: states) target space
      = (space', .ok ())) :
    ∃ mid stored, (space.noting (privateWarning spec)).addRule (modeName state)
        (stateRule settings kind spec body canonical target state) kind = (mid, .ok stored) ∧
      mapStates settings kind spec body canonical states
        (if state = canonical then (stored.map Rule.name).getD target else target) mid
          = (space', .ok ()) := by
  rw [mapStates, if_neg hnow] at h
  dsimp only at h
  split at h
  · cases h
  · rename_i mid stored hadded
    exact ⟨mid, stored, hadded, h⟩

lemma mapStates_cons_of_ok {mid : Workspace} {stored : Option Rule}
    (hnow : ¬(spec.isPrivate && state ≠ canonical) = true)
    (hadded : (space.noting (privateWarning spec)).addRule (modeName state)
      (stateRule settings kind spec body canonical target state) kind = (mid, .ok stored)) :
    mapStates settings kind spec body canonical (state :: states) target space
      = mapStates settings kind spec body canonical states
          (if state = canonical then (stored.map Rule.name).getD target else target) mid := by
  rw [mapStates, if_neg hnow]
  dsimp only
  rw [hadded]

lemma mapStates_private (hprivate : spec.isPrivate = true)
    (hstates : ∀ state ∈ states, state ≠ canonical) :
    mapStates settings kind spec body canonical states target space = (space, .ok ()) := by
  induction states with
  | nil => rfl
  | cons state states ih =>
      have hskip : (spec.isPrivate && state ≠ canonical) = true := by
        simp [hprivate, hstates state (by simp)]
      rw [mapStates, if_pos hskip]
      exact ih fun other hother => hstates other (by simp [hother])

variable {grammar : Grammar} {accepts : Body → String → Prop}

/-! ## The workspace stays sound -/

lemma givenName_eq {label : String} (h : spec.label? = some label) :
    givenName spec = ruleName label := by
  rw [givenName, h]
  rfl

lemma givenName_ne_empty {label : String} (h : spec.label? = some label) : givenName spec ≠ "" := by
  have hlabel : label ≠ "" := by simpa using (Option.filter_eq_some_iff.mp h).2
  rw [givenName_eq h]
  intro hempty
  refine hlabel (String.toList_eq_nil_iff.mp (List.suffix_nil.mp ?_))
  have hsuffix := suffix_toList_ruleName label
  rwa [hempty] at hsuffix

lemma label?_eq_none_of_givenName (h : givenName spec = "") : spec.label? = none := by
  cases hlabel : spec.label? with
  | none => rfl
  | some label => exact absurd h (givenName_ne_empty hlabel)

lemma sound_addRule_public (hsound : space.Sound grammar) (hpublic : spec.isPrivate = false)
    {mode : String} {mid : Workspace} {result : Option Rule}
    (h : space.addRule mode (stateRule settings kind spec body canonical target state) kind
      = (mid, .ok result)) : mid.Sound grammar := by
  refine hsound.addRule ?_ h
  rw [isFragment_stateRule, hpublic]
  exact fun hfragment => Bool.noConfusion hfragment

lemma sound_mapStates_public (hpublic : spec.isPrivate = false) (states : List String) :
    ∀ (target : String) (space : Workspace), space.Sound grammar →
      mapStates settings kind spec body canonical states target space = (space', .ok ()) →
      space'.Sound grammar := by
  induction states with
  | nil =>
      intro target space hsound h
      rcases Prod.mk.inj h with ⟨rfl, -⟩
      exact hsound
  | cons state states ih =>
      intro target space hsound h
      rcases mapStates_cons_ok (by simp [hpublic]) h with ⟨mid, stored, hadded, hrest⟩
      exact ih _ mid (sound_addRule_public (hsound.noting _) hpublic hadded) hrest

lemma private_givenName (hspec : spec ∈ grammar.specs) (hprivate : spec.isPrivate = true) :
    givenName spec = "" ∨ PrivateName grammar (ruleName (givenName spec)) := by
  cases hlabel : spec.label? with
  | none =>
      left
      rw [givenName, hlabel]
      rfl
  | some label =>
      right
      rw [givenName_eq hlabel, ruleName_ruleName]
      exact ⟨spec, hspec, hprivate, label, hlabel, rfl⟩

/-- **Rules are only ever added at the end of a mode.** -/
lemma rulesIn_prefix_of_addRule (hsound : space.Sound grammar) {mode other : String} {rule : Rule}
    {mid : Workspace} {result : Option Rule}
    (h : space.addRule mode rule kind = (mid, .ok result)) :
    space.lexer.rulesIn other <+: mid.lexer.rulesIn other := by
  have hadding := Workspace.adding_of_addRule h
  cases result with
  | none => exact ⟨[], by rw [rulesIn_eq_of_adding hadding, List.append_nil]⟩
  | some stored =>
      have hsettled := (stores_of_adding hsound.indexed hadding).settled
      by_cases hother : other = mode
      · subst hother
        exact hsettled.grows.isPrefix
      · exact ⟨[], by rw [hsettled.frame other hother, List.append_nil]⟩

lemma rulesIn_prefix_of_mapStates (hpublic : spec.isPrivate = false) (mode : String)
    (states : List String) : ∀ (target : String) (space : Workspace), space.Sound grammar →
      mapStates settings kind spec body canonical states target space = (space', .ok ()) →
      space.lexer.rulesIn mode <+: space'.lexer.rulesIn mode := by
  induction states with
  | nil =>
      intro target space hsound h
      rcases Prod.mk.inj h with ⟨rfl, -⟩
      exact List.prefix_refl _
  | cons state states ih =>
      intro target space hsound h
      rcases mapStates_cons_ok (by simp [hpublic]) h with ⟨mid, stored, hadded, hrest⟩
      have hmid := sound_addRule_public (hsound.noting _) hpublic hadded
      have hfirst : space.lexer.rulesIn mode <+: mid.lexer.rulesIn mode :=
        rulesIn_prefix_of_addRule (hsound.noting _) hadded
      exact hfirst.trans (ih _ mid hmid hrest)

/-- **A specification leaves the workspace sound.** -/
lemma sound_mapSpec {production : TokenProduction} (hspec : spec ∈ grammar.specs)
    (hsound : space.Sound grammar)
    (h : mapSpec settings production kind canonical (canonicalFirst canonical states) spec space
      = (space', .ok ())) : space'.Sound grammar := by
  rw [mapSpec] at h
  split at h
  · cases h
  · rename_i body hbody
    cases hprivate : spec.isPrivate with
    | false => exact sound_mapStates_public hprivate _ _ space hsound h
    | true =>
        rcases mapStates_cons_ok (by simp) h with ⟨mid, stored, hadded, hrest⟩
        rw [mapStates_private hprivate (by simp)] at hrest
        rcases Prod.mk.inj hrest with ⟨rfl, -⟩
        refine (hsound.noting _).addRule ?_ hadded
        intro _
        rw [stateRule, hprivate, if_pos rfl]
        exact private_givenName hspec hprivate

/-! ## The other states -/

/-- **The rule for another state** refers to the canonical rule.  It is never dropped, since its
name is longer than that of the canonical rule, and it is not taken for a fragment. -/
lemma addRule_alias (hsound : space.Sound grammar) (hletters : RespectsLetters accepts grammar)
    (hpublic : spec.isPrivate = false) (hstate : state ≠ canonical)
    (hname : ¬PrivateName grammar (ruleName (state ++ "_" ++ target))) {mid : Workspace}
    {result : Option Rule}
    (h : space.addRule (modeName state)
      (stateRule settings kind spec body canonical target state) kind = (mid, .ok result)) :
    (∀ other, other ≠ modeName state →
        mid.lexer.rulesIn other = space.lexer.rulesIn other) ∧
      ∃ stored, stored.name = ruleName (state ++ "_" ++ target) ∧
        Serves accepts (stateRule settings kind spec body canonical target state) (.text target)
          (space.lexer.rulesIn (modeName state)) (mid.lexer.rulesIn (modeName state)) stored := by
  have hrule : stateRule settings kind spec body canonical target state
      = { name := state ++ "_" ++ target
          body := .text target
          commands := kindCommands kind ++ (if kind = .token then [.type target] else [])
            ++ stateCommands settings spec state } := by
    rw [stateRule, hpublic, if_neg Bool.false_ne_true, if_neg hstate]
  have hempty := prefixed_ne_empty state target
  have hmid : mid.Sound grammar := sound_addRule_public hsound hpublic h
  have hadding := Workspace.adding_of_addRule h
  cases result with
  | none =>
      have hself :=
        hadding.body_eq_of_none (fun letter hletter => (hsound.letters letter hletter).2)
        (by rwa [hrule])
      rw [hrule] at hself
      exact absurd (Body.text.inj hself).symm (ruleName_prefixed_ne state target)
  | some stored =>
      have hstores := stores_of_adding hsound.indexed hadding
      have hstored : stored.name = ruleName (state ++ "_" ++ target) := by
        rw [hstores.named (by rwa [hrule]), hrule]
      have hgenerated : ¬IsGenerated (reservedNames grammar) stored.name := by
        rintro ⟨-, kind, number, hnumbered⟩
        have hmem := underscore_mem_ruleName state target
        rw [← hstored, hnumbered] at hmem
        exact underscore_notMem_numbered kind number hmem
      refine ⟨hstores.settled.frame, stored, hstored, hstores.settled.grows, ?_, ?_⟩
      · exact hmid.isFragment_eq_false hstores.settled.grows.mem (by rwa [hstored]) hgenerated
      · intro word
        have hstands := hstores.settled.standsFor
        rw [hrule] at hstands
        exact hsound.accepts_iff hletters hstands word

/-- The first rule for another state is added, and the rest refer to the same rule. -/
lemma mapStates_other_cons_ok (hsound : space.Sound grammar) (hpublic : spec.isPrivate = false)
    (hstate : state ≠ canonical)
    (h : mapStates settings kind spec body canonical (state :: states) target space
      = (space', .ok ())) :
    ∃ mid stored, (space.noting (privateWarning spec)).addRule (modeName state)
        (stateRule settings kind spec body canonical target state) kind = (mid, .ok stored) ∧
      (space.noting (privateWarning spec)).Sound grammar ∧ mid.Sound grammar ∧
      mapStates settings kind spec body canonical states target mid = (space', .ok ()) := by
  rcases mapStates_cons_ok (by simp [hpublic]) h with ⟨mid, stored, hadded, hrest⟩
  rw [if_neg hstate] at hrest
  have hnoted := hsound.noting (privateWarning spec)
  exact ⟨mid, stored, hadded, hnoted, sound_addRule_public hnoted hpublic hadded, hrest⟩

/-- **The rules for the other states.**  A state that is listed again gets no second rule. -/
lemma mapStates_aliases (hletters : RespectsLetters accepts grammar)
    (hpublic : spec.isPrivate = false) (states : List String) :
    ∀ (space : Workspace), space.Sound grammar →
      (∀ state ∈ states, state ≠ canonical ∧ state ≠ defaultMode ∧
        ¬PrivateName grammar (ruleName (state ++ "_" ++ target))) →
      mapStates settings kind spec body canonical states target space = (space', .ok ()) →
      ∀ state, state ≠ defaultMode →
        (state ∉ states →
          space'.lexer.rulesIn (modeName state) = space.lexer.rulesIn (modeName state)) ∧
        (state ∈ states → ∃ stored, stored.name = ruleName (state ++ "_" ++ target) ∧
          Serves accepts (stateRule settings kind spec body canonical target state) (.text target)
            (space.lexer.rulesIn (modeName state)) (space'.lexer.rulesIn (modeName state))
            stored) := by
  induction states with
  | nil =>
      intro space _ _ h state _
      rcases Prod.mk.inj h with ⟨rfl, -⟩
      exact ⟨fun _ => rfl, fun hmem => absurd hmem List.not_mem_nil⟩
  | cons first states ih =>
      intro space hsound hstates h state hstate
      rcases hstates first (by simp) with ⟨hfirst, hdefault, hname⟩
      rcases mapStates_other_cons_ok hsound hpublic hfirst h with
        ⟨mid, result, hadded, hnoted, hmid, hrest⟩
      obtain ⟨hframe, stored, hstored, hserves⟩ :=
        addRule_alias hnoted hletters hpublic hfirst hname hadded
      obtain ⟨hunlisted, hlisted⟩ :=
        ih mid hmid (fun other hother => hstates other (by simp [hother])) hrest state hstate
      by_cases hsame : state = first
      · subst hsame
        refine ⟨fun hmem => absurd List.mem_cons_self hmem, fun _ => ⟨stored, hstored, ?_⟩⟩
        -- whether or not the state is listed again, the mode has its rule by now
        have hkept : space'.lexer.rulesIn (modeName state)
            = mid.lexer.rulesIn (modeName state) := by
          by_cases hagain : state ∈ states
          · rcases hlisted hagain with ⟨again, hagainname, hagainserves⟩
            exact hagainserves.grows.eq_of_name hserves.grows.mem
              (hstored.trans hagainname.symm)
          · exact hunlisted hagain
        rw [hkept]
        exact hserves
      · have hmode : modeName state ≠ modeName first := fun hc =>
          hsame (modeName_injective hstate hdefault hc)
        have hbefore := hframe (modeName state) hmode
        rw [hbefore] at hunlisted hlisted
        refine ⟨fun hmem => hunlisted fun hc => hmem (List.mem_cons_of_mem first hc), ?_⟩
        intro hmem
        exact hlisted ((List.mem_cons.mp hmem).resolve_left hsame)

/-! ## The canonical state -/

lemma exists_label_of_givenName_ne (h : givenName spec ≠ "") :
    ∃ label, spec.label? = some label ∧ givenName spec = ruleName label := by
  cases hlabel : spec.label? with
  | none =>
      rw [givenName, hlabel] at h
      exact absurd rfl h
  | some label => exact ⟨label, rfl, givenName_eq hlabel⟩

lemma mem_reservedNames {label : String} (hspec : spec ∈ grammar.specs)
    (hlabel : spec.label? = some label) : ruleName label ∈ reservedNames grammar :=
  List.mem_map_of_mem (List.mem_filterMap.mpr ⟨spec, hspec, hlabel⟩)

lemma stateRule_canonical (settings : TokenSettings) (kind : ProductionKind)
    (hpublic : spec.isPrivate = false) (body : Body) (canonical target : String) :
    stateRule settings kind spec body canonical target canonical
      = { name := target
          body := body
          commands := kindCommands kind ++ stateCommands settings spec canonical } := by
  rw [stateRule, hpublic, if_neg Bool.false_ne_true, if_pos rfl]

/-- **The canonical rule** of a token that matches on its own is no fragment, whether it is a new
rule or one that has been there before. -/
lemma isFragment_of_addRule_canonical (hsound : space.Sound grammar)
    (hpublic : spec.isPrivate = false) (hspec : spec ∈ grammar.specs)
    (hlabel : ∀ label, spec.label? = some label → ¬PrivateName grammar (ruleName label))
    {mid : Workspace} {stored : Rule}
    (h : space.addRule (modeName canonical)
      (stateRule settings kind spec body canonical (givenName spec) canonical) kind
        = (mid, .ok (some stored))) : stored.isFragment = false := by
  have hrule := stateRule_canonical settings kind hpublic body canonical (givenName spec)
  have hstores := stores_of_adding hsound.indexed (Workspace.adding_of_addRule h)
  have hmid : mid.Sound grammar := sound_addRule_public hsound hpublic h
  by_cases hempty : givenName spec = ""
  · exact hstores.anonymous (by rw [hrule, hempty]) (by rw [hrule])
  · rcases exists_label_of_givenName_ne hempty with ⟨label, hsome, hgiven⟩
    have hstored : stored.name = ruleName label := by
      rw [hstores.named (by rwa [hrule]), hrule, hgiven, ruleName_ruleName]
    refine hmid.isFragment_eq_false hstores.settled.grows.mem ?_ ?_
    · rw [hstored]
      exact hlabel label hsome
    · rw [hstored]
      exact fun hgenerated => hgenerated.1 (mem_reservedNames hspec hsome)

/-- **The canonical rule** of a token matches what the token matches. -/
lemma addRule_canonical (hsound : space.Sound grammar) (hletters : RespectsLetters accepts grammar)
    (hpublic : spec.isPrivate = false) (hspec : spec ∈ grammar.specs)
    (hlabel : ∀ label, spec.label? = some label → ¬PrivateName grammar (ruleName label))
    {mid : Workspace} {stored : Rule}
    (h : space.addRule (modeName canonical)
      (stateRule settings kind spec body canonical (givenName spec) canonical) kind
        = (mid, .ok (some stored))) :
    (∀ other, other ≠ modeName canonical →
        mid.lexer.rulesIn other = space.lexer.rulesIn other) ∧
      Serves accepts (stateRule settings kind spec body canonical (givenName spec) canonical) body
        (space.lexer.rulesIn (modeName canonical)) (mid.lexer.rulesIn (modeName canonical))
        stored := by
  have hstores := stores_of_adding hsound.indexed (Workspace.adding_of_addRule h)
  refine ⟨hstores.settled.frame, hstores.settled.grows,
    isFragment_of_addRule_canonical hsound hpublic hspec hlabel h, ?_⟩
  intro word
  have hstands := hstores.settled.standsFor
  rw [stateRule_canonical settings kind hpublic] at hstands
  exact hsound.accepts_iff hletters hstands word

/-- **The rule for a private token** is a fragment. -/
lemma addRule_private (hsound : space.Sound grammar) (hprivate : spec.isPrivate = true)
    {mid : Workspace} {result : Option Rule}
    (h : space.addRule (modeName canonical)
      (stateRule settings kind spec body canonical target canonical) kind = (mid, .ok result))
    (mode : String) : ∃ news, mid.lexer.rulesIn mode = space.lexer.rulesIn mode ++ news ∧
      ∀ rule ∈ news, rule.isFragment = true := by
  have hadding := Workspace.adding_of_addRule h
  cases result with
  | none => exact ⟨[], by rw [rulesIn_eq_of_adding hadding, List.append_nil], by simp⟩
  | some stored =>
      have hsettled := (stores_of_adding hsound.indexed hadding).settled
      by_cases hmode : mode = modeName canonical
      · subst hmode
        cases hsettled.grows with
        | kept hrules _ => exact ⟨[], by rw [hrules, List.append_nil], by simp⟩
        | added hrules _ _ hfragment =>
            refine ⟨[stored], hrules, ?_⟩
            intro other hother
            rw [List.mem_singleton.mp hother, hfragment, isFragment_stateRule, hprivate]
      · exact ⟨[], by rw [hsettled.frame mode hmode, List.append_nil], by simp⟩

end States

end GrammarConversion.Conversion
