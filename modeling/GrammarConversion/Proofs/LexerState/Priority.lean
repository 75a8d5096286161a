import Mathlib
import GrammarConversion.Proofs.LexerState.Run

/-!
# The first match wins, as before

Of two tokens that match the same text the first one in the grammar wins, in every lexical state.
In a lexer grammar the first rule of a mode wins.  **`convertTokens_firstMatch`: these are the same
priorities.**  A mode has a rule that matches a text if and only if a token of its state matches the
text, and the first such rule is the one that is added in the turn of the first such token, with the
commands of that token.

This is so for any relation between bodies and texts, so long as the name of a rule matches what the
rule matches (`RespectsReferences`), and in any grammar whose tokens keep out of each other's way:
labels differ, also from the names of the rules that refer to them, and no token stands for itself.
-/

namespace GrammarConversion.Conversion

open Antlr
open LexerGrammar
open Model

/-! ## What matches a text -/

section Accepting

variable (accepts : Body → String → Prop)

/-- Whether a rule matches a text on its own. -/
def Fires (word : String) (rule : Rule) : Prop :=
  rule.isFragment = false ∧ accepts rule.body word

/-- Whether a token of a grammar matches a text on its own in a state. -/
def Offers (settings : TokenSettings) (state word : String)
    (source : TokenProduction × TokenSpec) : Prop :=
  source.2.isPrivate = false ∧ state ∈ source.1.states ∧
    ∃ body, specBody settings source.1 source.2 = .ok body ∧ accepts body word

/-- **The names of rules and of letters match what these match.** -/
structure RespectsReferences (name : String) (grammar : Grammar) : Prop where
  letters : RespectsLetters accepts grammar
  canonical : ∀ turn ∈ tokenTurns name grammar, turn.spec.isPrivate = false →
    ∀ rule, turn.canonicalRule? (tokenSettings grammar) = some rule →
      ∀ word, accepts (.text rule.name) word ↔ accepts rule.body word

end Accepting

/-- **The names of a grammar keep apart:** labels differ from each other and from the names of the
rules that refer to other rules, and no state takes the name of the default mode. -/
structure NamesApart (grammar : Grammar) (lexer : LexerGrammar) : Prop where
  labels : (reservedNames grammar).Nodup
  aliases : ∀ production ∈ grammar.tokenProductions, ∀ state ∈ production.states,
    ∀ rule ∈ lexer.rules, ruleName (state ++ "_" ++ rule.name) ∉ reservedNames grammar
  states : ∀ production ∈ grammar.tokenProductions, defaultMode ∉ production.states

/-- **A turn adds a rule to the mode for a state,** with the commands of its token. -/
structure Turn.Adds (settings : TokenSettings) (turn : Turn) (state : String) (rule : Rule) :
    Prop where
  rules : turn.after.lexer.rulesIn (modeName state)
    = turn.before.lexer.rulesIn (modeName state) ++ [rule]
  commands : ∃ body canonicalRule, specBody settings turn.production turn.spec = .ok body ∧
    turn.canonicalRule? settings = some canonicalRule ∧
    rule.commands = (stateRule settings turn.kind turn.spec body turn.canonical
      canonicalRule.name state).commands

/-! ## One turn -/

section Effects

variable {accepts : Body → String → Prop} {settings : TokenSettings} {turn : Turn}
  {state word : String} {rules rules' : List Rule}

lemma Turn.Effect.offers (h : turn.Effect accepts settings state rules rules') {rule : Rule}
    (hrule : rule ∈ rules') (hfires : Fires accepts word rule) :
    rule ∈ rules ∨ Offers accepts settings state word turn.source := by
  cases h with
  | idle hidle hrules hfragments =>
      rw [hrules, List.mem_append] at hrule
      rcases hrule with hrule | hrule
      · exact .inl hrule
      · have hfragment := hfragments rule hrule
        rw [hfires.1] at hfragment
        exact Bool.noConfusion hfragment
  | served hconcerns hbody hcanonical hserves =>
      rcases hserves.grows.mem_or_eq hrule with hrule | ⟨rfl, -⟩
      · exact .inl hrule
      · exact .inr ⟨hconcerns.1, hconcerns.2, _, hbody, (hserves.accepts_iff word).mp hfires.2⟩

lemma Turn.Effect.exists_fires (h : turn.Effect accepts settings state rules rules')
    (hoffers : Offers accepts settings state word turn.source) :
    ∃ rule ∈ rules', Fires accepts word rule := by
  rcases hoffers with ⟨hpublic, hactive, body, hbody, haccepts⟩
  cases h with
  | idle hidle => exact absurd ⟨hpublic, hactive⟩ hidle
  | @served body' canonicalRule stored hconcerns hbody' hcanonical hserves =>
      have hsame : body' = body := Except.ok.inj (hbody'.symm.trans hbody)
      rw [hsame] at hserves
      exact ⟨stored, hserves.grows.mem, hserves.isToken, (hserves.accepts_iff word).mpr haccepts⟩

/-- **A turn adds the first rule that matches** if no rule from before does. -/
lemma Turn.Effect.adds (h : turn.Effect accepts settings state
      (turn.before.lexer.rulesIn (modeName state)) (turn.after.lexer.rulesIn (modeName state)))
    (hoffers : Offers accepts settings state word turn.source)
    (hnone : ∀ rule ∈ turn.before.lexer.rulesIn (modeName state), ¬Fires accepts word rule) :
    ∃ rule, turn.Adds settings state rule ∧ Fires accepts word rule := by
  rcases hoffers with ⟨hpublic, hactive, body, hbody, haccepts⟩
  cases h with
  | idle hidle => exact absurd ⟨hpublic, hactive⟩ hidle
  | @served body' canonicalRule stored hconcerns hbody' hcanonical hserves =>
      have hsame : body' = body := Except.ok.inj (hbody'.symm.trans hbody)
      rw [hsame] at hserves hbody'
      have hfires : Fires accepts word stored :=
        ⟨hserves.isToken, (hserves.accepts_iff word).mpr haccepts⟩
      cases hserves.grows with
      | kept _ hmem => exact absurd hfires (hnone stored hmem)
      | added hrules _ hcommands _ =>
          exact ⟨stored, ⟨hrules, body, canonicalRule, hbody, hcanonical, hcommands⟩, hfires⟩

/-! ## Runs of turns -/

variable {grammar : Grammar} {space space' : Workspace} {turns : List Turn}

/-- What each of several turns does to the mode for a state. -/
def HaveEffect (accepts : Body → String → Prop) (settings : TokenSettings) (state : String)
    (turns : List Turn) : Prop :=
  ∀ turn ∈ turns, turn.Effect accepts settings state
    (turn.before.lexer.rulesIn (modeName state)) (turn.after.lexer.rulesIn (modeName state))

/-- **Every rule that matches a text comes from a token that does.** -/
lemma Run.offers (h : Run settings grammar space turns space') {rule : Rule}
    (heffect : HaveEffect accepts settings state turns)
    (hrule : rule ∈ space'.lexer.rulesIn (modeName state)) (hfires : Fires accepts word rule) :
    rule ∈ space.lexer.rulesIn (modeName state) ∨
      ∃ turn ∈ turns, Offers accepts settings state word turn.source := by
  induction h with
  | nil hrules =>
      rw [hrules] at hrule
      exact .inl hrule
  | @cons space space' turn turns hrules hturn _ ih =>
      rw [← hrules]
      rcases ih (fun other hother => heffect other (by simp [hother])) hrule with hmem | hlater
      · rcases (heffect turn (by simp)).offers hmem hfires with hbefore | hoffers
        · exact .inl hbefore
        · exact .inr ⟨turn, by simp, hoffers⟩
      · rcases hlater with ⟨other, hother, hoffers⟩
        exact .inr ⟨other, by simp [hother], hoffers⟩

/-- **Every token that matches a text has a rule that does.** -/
lemma Run.exists_fires (h : Run settings grammar space turns space')
    (heffect : HaveEffect accepts settings state turns) {turn : Turn} (hturn : turn ∈ turns)
    (hoffers : Offers accepts settings state word turn.source) :
    ∃ rule ∈ space'.lexer.rulesIn (modeName state), Fires accepts word rule := by
  rcases (heffect turn hturn).exists_fires hoffers with ⟨rule, hrule, hfires⟩
  exact ⟨rule, ((h.goesThrough hturn).2 _).subset hrule, hfires⟩

/-- **The first token that matches a text adds the first rule that does.** -/
lemma Run.first_fires {turn : Turn} {earlier later : List Turn}
    (h : Run settings grammar space (earlier ++ turn :: later) space')
    (hempty : space.lexer.rulesIn (modeName state) = [])
    (heffect : HaveEffect accepts settings state (earlier ++ turn :: later))
    (hearlier : ∀ other ∈ earlier, ¬Offers accepts settings state word other.source)
    (hoffers : Offers accepts settings state word turn.source) :
    (∀ other ∈ turn.before.lexer.rulesIn (modeName state), ¬Fires accepts word other) ∧
      ∃ rule rest, turn.Adds settings state rule ∧ Fires accepts word rule ∧
        space'.lexer.rulesIn (modeName state)
          = turn.before.lexer.rulesIn (modeName state) ++ rule :: rest := by
  rcases h.split with ⟨-, hbefore, hafter⟩
  have hnone : ∀ other ∈ turn.before.lexer.rulesIn (modeName state),
      ¬Fires accepts word other := by
    intro other hother hfires
    rcases hbefore.offers (fun _ hmem => heffect _ (by simp [hmem])) hother hfires
      with hmem | ⟨first, hfirst, hfirstoffers⟩
    · rw [hempty] at hmem
      exact absurd hmem List.not_mem_nil
    · exact hearlier first hfirst hfirstoffers
  rcases (heffect turn (by simp)).adds hoffers hnone with ⟨rule, hadds, hfires⟩
  rcases hafter.rulesIn_grow (modeName state) with ⟨rest, hrest⟩
  refine ⟨hnone, rule, rest, hadds, hfires, ?_⟩
  rw [← hrest, hadds.rules, List.append_assoc, List.singleton_append]

end Effects

/-! ## Names that keep apart -/

section Names

variable {grammar : Grammar} {lexer : LexerGrammar}

lemma mem_reservedNames_of_private {name : String} (h : PrivateName grammar name) :
    name ∈ reservedNames grammar := by
  rcases h with ⟨spec, hspec, -, label, hlabel, rfl⟩
  exact mem_reservedNames hspec hlabel

end Names

/-! ## The conversion of a grammar -/

/-- **The first match wins, as before.**  Let the token productions of a grammar be converted, all
of them explicit.  Let names keep apart, let no token be dropped since it only stands for itself,
and let `accepts` respect references.  Then in every state a rule of the mode matches a text if and
only if a token of the state does; and the first token that does, in the order of the grammar, is
the one in whose turn the first rule that does is added to the mode, with the commands of the
token. -/
theorem convertTokens_firstMatch {name : String} {grammar : Grammar} {space : Workspace}
    (hrun : convertTokens name grammar = (space, .ok ()))
    (hexplicit : ∀ production ∈ grammar.tokenProductions, production.isExplicit = true)
    (hapart : NamesApart grammar space.lexer)
    (hkept : ∀ turn ∈ tokenTurns name grammar, turn.spec.isPrivate = false →
      (turn.canonicalRule? (tokenSettings grammar)).isSome = true)
    (accepts : Body → String → Prop) (haccepts : RespectsReferences accepts name grammar)
    (state : String) (hstate : state ≠ defaultMode) (word : String) :
    (tokenTurns name grammar).map Turn.source = sources grammar.tokenProductions ∧
      ((∃ rule ∈ space.lexer.rulesIn (modeName state), Fires accepts word rule) ↔
        ∃ source ∈ sources grammar.tokenProductions,
          Offers accepts (tokenSettings grammar) state word source) ∧
      ∀ earlier turn later, tokenTurns name grammar = earlier ++ turn :: later →
        (∀ other ∈ earlier, ¬Offers accepts (tokenSettings grammar) state word other.source) →
        Offers accepts (tokenSettings grammar) state word turn.source →
        (∀ other ∈ turn.before.lexer.rulesIn (modeName state), ¬Fires accepts word other) ∧
          ∃ rule rest, turn.Adds (tokenSettings grammar) state rule ∧ Fires accepts word rule ∧
            space.lexer.rulesIn (modeName state)
              = turn.before.lexer.rulesIn (modeName state) ++ rule :: rest := by
  have hturns := run_tokenTurns hexplicit hrun
  have hempty := Workspace.rulesIn_initialWorkspace name grammar (modeName state)
  have hsources := tokenTurns_source hexplicit hrun
  have heffect : HaveEffect accepts (tokenSettings grammar) state (tokenTurns name grammar) := by
    intro turn hturn
    rcases hturns.goesThrough hturn with ⟨hgoes, hlater⟩
    refine hgoes.effect haccepts.letters (hapart.states _ hgoes.production_mem) ?_
      (hkept turn hturn) ?_ (haccepts.canonical turn hturn) hstate
    · intro hpublic label hlabel
      exact not_privateName_of_nodup hapart.labels hgoes.production_mem hgoes.spec_mem hpublic
        hlabel
    · intro hpublic rule hrule other hother hprivate
      have hmem : rule ∈ space.lexer.rules := mem_rules_of_mem_rulesIn
        ((hlater _).subset (hgoes.canonicalRule_mem hpublic hrule))
      exact hapart.aliases _ hgoes.production_mem other hother rule hmem
        (mem_reservedNames_of_private hprivate)
  refine ⟨hsources, ⟨?_, ?_⟩, ?_⟩
  · rintro ⟨rule, hrule, hfires⟩
    rcases hturns.offers heffect hrule hfires with hmem | ⟨turn, hturn, hoffers⟩
    · rw [hempty] at hmem
      exact absurd hmem List.not_mem_nil
    · rw [← hsources]
      exact ⟨turn.source, List.mem_map_of_mem hturn, hoffers⟩
  · rintro ⟨source, hsource, hoffers⟩
    rw [← hsources] at hsource
    rcases List.mem_map.mp hsource with ⟨turn, hturn, rfl⟩
    exact hturns.exists_fires heffect hturn hoffers
  · intro earlier turn later hsplit hearlier hoffers
    rw [hsplit] at hturns heffect
    exact hturns.first_fires hempty heffect hearlier hoffers

/-- One text under a label, the same text without one, and a reference to it. -/
def sampleGrammar : Grammar :=
  { tokenProductions :=
      [{ kind := .known .token
         listedStates := ["DEFAULT", "S"]
         specs :=
          [{ tree := .regex (.literal "a"), label := some "FOO" },
            { tree := .regex (.literal "a"), nextState := some "S" }] },
        { kind := .known .skip
          listedStates := ["S"]
          specs := [{ tree := .regex (.reference "FOO") }] }]
    bnfProductions := [] }

/-- The bodies of the sample grammar all match the same text. -/
def sampleAccepts (body : Body) (word : String) : Prop :=
  body ∈ [.text "'a'", .text "FOO", .text "S_FOO"] ∧ word = "a"

/-- The reference to the token in the other state stands for the rule that refers to it there. -/
lemma sampleGrammar_canonicalRule {turn : Turn} (hturn : turn ∈ tokenTurns "L" sampleGrammar) :
    ∃ rule, turn.canonicalRule? (tokenSettings sampleGrammar) = some rule ∧
      (rule.name = "FOO" ∧ rule.body = .text "'a'" ∨
        rule.name = "S_FOO" ∧ rule.body = .text "FOO") := by
  have hcanonical : (tokenTurns "L" sampleGrammar).map
      (fun turn => (turn.canonicalRule? (tokenSettings sampleGrammar)).map
        fun rule => (rule.name, rule.body))
      = [some ("FOO", .text "'a'"), some ("FOO", .text "'a'"), some ("S_FOO", .text "FOO")] := by
    cbv
  have hmem := List.mem_map_of_mem (f := fun turn : Turn =>
    (turn.canonicalRule? (tokenSettings sampleGrammar)).map
      fun rule => (rule.name, rule.body)) hturn
  rw [hcanonical] at hmem
  cases hrule : turn.canonicalRule? (tokenSettings sampleGrammar) with
  | none => simp [hrule] at hmem
  | some rule => exact ⟨rule, rfl, by simpa [hrule] using hmem⟩

lemma sampleGrammar_namesApart :
    NamesApart sampleGrammar (convertTokens "L" sampleGrammar).1.lexer := by
  have hrules : (convertTokens "L" sampleGrammar).1.lexer.rules.map Rule.name
      = ["FOO", "S_FOO"] := by cbv
  have hall : ∀ production ∈ sampleGrammar.tokenProductions, ∀ state ∈ production.states,
      ∀ name ∈ ["FOO", "S_FOO"],
        ruleName (state ++ "_" ++ name) ∉ reservedNames sampleGrammar := by decide
  refine ⟨by decide, ?_, by decide⟩
  intro production hproduction state hstate rule hrule
  have hname : rule.name ∈ ["FOO", "S_FOO"] := by
    rw [← hrules]
    exact List.mem_map_of_mem hrule
  exact hall production hproduction state hstate rule.name hname

lemma sampleAccepts_respectsReferences :
    RespectsReferences sampleAccepts "L" sampleGrammar := by
  refine ⟨fun huses => absurd huses (by decide), ?_⟩
  intro turn hturn _ rule hrule word
  rcases sampleGrammar_canonicalRule hturn with ⟨rule', hrule', hnamed⟩
  obtain rfl : rule' = rule := Option.some.inj (hrule'.symm.trans hrule)
  rcases hnamed with ⟨hname, hbody⟩ | ⟨hname, hbody⟩ <;> simp [sampleAccepts, hname, hbody]

/-- The rule that the first token adds to the other state comes first there. -/
theorem convertTokens_firstMatch_sample :
    ∃ turn later rule, tokenTurns "L" sampleGrammar = turn :: later ∧
      turn.Adds (tokenSettings sampleGrammar) "S" rule ∧ Fires sampleAccepts "a" rule := by
  have hrun : convertTokens "L" sampleGrammar = ((convertTokens "L" sampleGrammar).1, .ok ()) :=
    Prod.ext rfl (by cbv)
  have hkept : ∀ turn ∈ tokenTurns "L" sampleGrammar, turn.spec.isPrivate = false →
      (turn.canonicalRule? (tokenSettings sampleGrammar)).isSome = true := by
    intro turn hturn _
    rcases sampleGrammar_canonicalRule hturn with ⟨rule, hrule, -⟩
    rw [hrule]
    rfl
  obtain ⟨hsources, -, hfirst⟩ := convertTokens_firstMatch hrun (by decide)
    sampleGrammar_namesApart hkept sampleAccepts sampleAccepts_respectsReferences
    "S" (by decide) "a"
  obtain ⟨turn, later, hturns⟩ : ∃ turn later, tokenTurns "L" sampleGrammar = turn :: later := by
    refine List.exists_cons_of_ne_nil fun hnil => ?_
    rw [hnil] at hsources
    exact absurd hsources (by simp [sources, sampleGrammar])
  rw [hturns, List.map_cons] at hsources
  have hoffers : Offers sampleAccepts (tokenSettings sampleGrammar) "S" "a" turn.source := by
    rw [(List.cons.inj hsources).1]
    exact ⟨rfl, by decide, .text "'a'", by cbv, by decide, rfl⟩
  rcases hfirst [] turn later hturns (by simp) hoffers with ⟨-, rule, -, hadds, hfires, -⟩
  exact ⟨turn, later, rule, hturns, hadds, hfires⟩

end GrammarConversion.Conversion
