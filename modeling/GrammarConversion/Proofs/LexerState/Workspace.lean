import GrammarConversion.Conversion.Grammar
import GrammarConversion.Proofs.LexerGrammar.Addition
import GrammarConversion.Proofs.NameSupply

/-!
# The workspace of a lexer

While the lexer of a grammar is built, its workspace is `Sound`: the indices of the modes are right,
there are letter rules only where case may not matter, and every fragment has the name of a private
token or a generated name.  The last point is what keeps a rule that is no fragment from being taken
for one: its name is neither.

`Workspace.Stores` says what a successful addition to a sound workspace does, for rules with a name
and without one.
-/

namespace GrammarConversion.Conversion

open Antlr
open LexerGrammar
open Model
open NameSupply

/-- The name of the rule for a private token of a grammar. -/
def PrivateName (grammar : Grammar) (name : String) : Prop :=
  ∃ spec ∈ grammar.specs, spec.isPrivate = true ∧
    ∃ label, spec.label? = some label ∧ name = ruleName label

namespace Workspace

/-- **The workspace while the lexer of a grammar is built.** -/
structure Sound (grammar : Grammar) (space : Workspace) : Prop where
  reserved : space.names.reserved = reservedNames grammar
  indexed : ∀ mode ∈ space.lexer.modes, mode.WellIndexed
  letters : ∀ letter ∈ space.lexer.letterRules,
    grammar.usesIgnoreCase = true ∧ letter ∈ allLetterRules
  fragments : ∀ mode, ∀ rule ∈ space.lexer.rulesIn mode, rule.isFragment = true →
    PrivateName grammar rule.name ∨ IsGenerated (reservedNames grammar) rule.name

end Workspace

variable {grammar : Grammar} {lexer lexer' : LexerGrammar} {names names' : NameSupply}
  {mode : String} {rule stored : Rule} {kind : ProductionKind}

/-! ## Adding a rule with a supply of names -/

/-- **What a successful addition stores,** where names without a label come from a supply that never
gives the `reserved` ones. -/
structure Stores (reserved : List String) (lexer : LexerGrammar) (mode : String) (rule : Rule)
    (lexer' : LexerGrammar) (stored : Rule) : Prop where
  settled : Settled lexer mode rule lexer' stored
  named : rule.name ≠ "" → stored.name = ruleName rule.name
  anonymous : rule.name = "" → rule.isFragment = false → stored.isFragment = false
  generated : rule.name = "" → stored.isFragment = true → IsGenerated reserved stored.name

/-- Registering the mode first and naming the rule makes no difference to what is stored. -/
lemma settled_of_addMode {rule' : Rule} (h : Settled (lexer.addMode mode) mode rule' lexer' stored)
    (hbody : rule'.body = rule.body) (hcommands : rule'.commands = rule.commands)
    (hfragment : rule'.isFragment = rule.isFragment) :
    Settled lexer mode rule lexer' stored := by
  refine ⟨?_, ?_, ?_⟩
  · have hstands := h.standsFor
    rwa [StandsFor, hbody, letterRules_addMode] at hstands
  · intro other hother
    rw [h.frame other hother, rulesIn_addMode]
  · have hgrows := h.grows
    rw [rulesIn_addMode] at hgrows
    exact hgrows.of_rule hcommands hfragment

lemma ne_of_ruleNamed?_isSome {name : String} (h : (lexer.ruleNamed? name).isSome = false)
    {other : Rule} (hother : other ∈ lexer.rulesIn mode) : other.name ≠ name := by
  intro hname
  have hsome : (lexer.ruleNamed? name).isSome = true :=
    List.find?_isSome.mpr ⟨other, mem_rules_of_mem_rulesIn hother, by simp [hname]⟩
  rw [h] at hsome
  exact Bool.noConfusion hsome

/-- **A rule that is found for a body** is no fragment, and has the body. -/
lemma stores_of_indexed (reserved : List String)
    (hindexed : ∀ found ∈ (lexer.addMode mode).modes, found.WellIndexed) {found : Mode}
    (hmode : (lexer.addMode mode).mode? mode = some found)
    (hstored : found.indexed? rule.body = some stored) (hname : rule.name = "") :
    Stores reserved lexer mode rule (lexer.addMode mode) stored := by
  rw [(hindexed found (mem_modes_of_mode? hmode)).indexed?_eq] at hstored
  rcases Mode.isRuleFor_iff.mp (List.find?_some hstored) with ⟨hfragment, hbody, -⟩
  have hmem : stored ∈ lexer.rulesIn mode := by
    rw [← rulesIn_addMode lexer mode, rulesIn_of_mode? hmode]
    exact List.mem_of_find?_eq_some hstored
  refine ⟨⟨.inl hbody, fun other _ => rulesIn_addMode lexer mode other,
    .kept (rulesIn_addMode lexer mode mode) hmem⟩, ?_, ?_, ?_⟩
  · exact fun hne => absurd hname hne
  · exact fun _ _ => hfragment
  · intro _ htrue
    rw [hfragment] at htrue
    exact Bool.noConfusion htrue

/-- **A rule that has been given a name** is new, since no rule had the name. -/
lemma stores_of_drawn {drawn : String × NameSupply}
    (hdraws : Draws names (fun name => ((lexer.addMode mode).ruleNamed? name).isSome) drawn)
    (hsettle : Settling (lexer.addMode mode) mode { rule with name := ruleName drawn.1 } lexer'
      (.ok (some stored))) (hname : rule.name = "") :
    Stores names.reserved lexer mode rule lexer' stored := by
  rcases mode?_addMode_self lexer mode with ⟨found, hfound⟩
  rcases hsettle.settled hfound with ⟨hstored, hsettled⟩
  rcases hdraws.generated.2 with ⟨kind, number, hnumbered⟩
  have hstored' : stored.name = drawn.1 := by
    rw [hstored]
    show ruleName drawn.1 = drawn.1
    rw [hnumbered, ruleName_numbered]
  have hfragment : stored.isFragment = rule.isFragment := by
    cases hsettled.grows with
    | kept _ hmem => exact absurd hstored' (ne_of_ruleNamed?_isSome hdraws.free hmem)
    | added _ _ _ hfragment => exact hfragment
  refine ⟨settled_of_addMode hsettled rfl rfl rfl, fun hne => absurd hname hne, ?_, ?_⟩
  · intro _ hrule
    rw [hfragment, hrule]
  · intro _ _
    rw [hstored']
    exact hdraws.generated

/-- **What a successful addition stores.** -/
lemma stores_of_adding (hindexed : ∀ found ∈ lexer.modes, found.WellIndexed)
    (h : Adding lexer mode rule names (some fun names => names.next kind) lexer' names'
      (.ok (some stored))) :
    Stores names.reserved lexer mode rule lexer' stored := by
  cases h with
  | named hname hsettle =>
      rcases mode?_addMode_self lexer mode with ⟨found, hfound⟩
      rcases hsettle.settled hfound with ⟨hstored, hsettled⟩
      exact ⟨settled_of_addMode hsettled rfl rfl rfl, fun _ => hstored,
        fun hempty => absurd hempty hname, fun hempty => absurd hempty hname⟩
  | duplicate hname hmode hstored =>
      exact stores_of_indexed _ (wellIndexed_addMode hindexed mode) hmode hstored hname
  | drawn hname hdraw hdrawn hsettle =>
      cases hdraw
      refine stores_of_drawn ?_ hsettle hname
      rw [hdrawn]
      exact drawUnused_next names kind _

lemma rulesIn_eq_of_adding {draw? : Option (NameSupply → String × NameSupply)}
    (h : Adding lexer mode rule names draw? lexer' names' (.ok none)) (other : String) :
    lexer'.rulesIn other = lexer.rulesIn other := by
  cases h with
  | named _ hsettle => rw [hsettle.rulesIn_eq_of_none, rulesIn_addMode]
  | drawn _ _ _ hsettle => rw [hsettle.rulesIn_eq_of_none, rulesIn_addMode]

/-- **Reserved names stay reserved.** -/
lemma reserved_of_adding {result : Except Failure (Option Rule)}
    (h : Adding lexer mode rule names (some fun names => names.next kind) lexer' names' result) :
    names'.reserved = names.reserved := by
  cases h with
  | drawn _ hdraw hdrawn _ =>
      cases hdraw
      rw [hdrawn]
      exact (drawUnused_next names kind _).reserved_eq
  | _ => rfl

/-! ## The workspace stays sound -/

namespace Workspace

variable {space space' : Workspace}

lemma adding_of_addRule {result : Except Failure (Option Rule)}
    (h : space.addRule mode rule kind = (space', result)) :
    Adding space.lexer mode rule space.names (some fun names => names.next kind) space'.lexer
      space'.names result := by
  have hcases := addRule_cases space.lexer mode rule space.names
    (some fun names => names.next kind)
  rw [addRule] at h
  rcases Prod.mk.inj h with ⟨rfl, rfl⟩
  exact hcases

/-- A fragment that is added to a workspace has no name yet, or that of a private token. -/
lemma Sound.addRule (hsound : space.Sound grammar)
    (hrule : rule.isFragment = true → rule.name = "" ∨ PrivateName grammar (ruleName rule.name))
    {result : Option Rule} (h : space.addRule mode rule kind = (space', .ok result)) :
    space'.Sound grammar := by
  have hadding := adding_of_addRule h
  have hkeeps := hadding.keeps
  refine ⟨(reserved_of_adding hadding).trans hsound.reserved, hkeeps.indexed hsound.indexed,
    fun letter hletter => hsound.letters letter (hkeeps.letters.subset hletter), ?_⟩
  intro other existing hexisting hfragment
  cases result with
  | none =>
      rw [rulesIn_eq_of_adding hadding] at hexisting
      exact hsound.fragments other existing hexisting hfragment
  | some stored =>
      have hstores := stores_of_adding hsound.indexed hadding
      by_cases hother : other = mode
      · rw [hother] at hexisting
        rcases hstores.settled.grows.mem_or_eq hexisting with hmem | ⟨rfl, heq⟩
        · exact hsound.fragments mode existing hmem hfragment
        · by_cases hname : rule.name = ""
          · right
            rw [← hsound.reserved]
            exact hstores.generated hname hfragment
          · left
            rw [hstores.named hname]
            exact (hrule (heq.symm.trans hfragment)).resolve_left hname
      · rw [hstores.settled.frame other hother] at hexisting
        exact hsound.fragments other existing hexisting hfragment

/-- A rule is no fragment if its name is neither that of a private token nor a generated one. -/
lemma Sound.isFragment_eq_false (hsound : space.Sound grammar)
    (hmem : rule ∈ space.lexer.rulesIn mode) (hprivate : ¬PrivateName grammar rule.name)
    (hgenerated : ¬IsGenerated (reservedNames grammar) rule.name) : rule.isFragment = false := by
  rw [← Bool.not_eq_true]
  intro hfragment
  rcases hsound.fragments mode rule hmem hfragment with h | h
  · exact hprivate h
  · exact hgenerated h

lemma Sound.noting (hsound : space.Sound grammar) (records : List LogRecord) :
    (space.noting records).Sound grammar :=
  ⟨hsound.reserved, hsound.indexed, hsound.letters, hsound.fragments⟩

/-! ## Registering modes -/

/-- **Registering modes changes no rules.** -/
lemma rulesIn_addModes (states : List String) (space : Workspace) (mode : String) :
    (space.addModes states).lexer.rulesIn mode = space.lexer.rulesIn mode := by
  induction states generalizing space with
  | nil => rfl
  | cons state states ih =>
      have hrest := ih { space with lexer := space.lexer.addMode (modeName state) }
      rw [rulesIn_addMode] at hrest
      exact hrest

lemma Sound.addMode (hsound : space.Sound grammar) (mode : String) :
    Sound grammar { space with lexer := space.lexer.addMode mode } := by
  have hkeeps := keeps_addMode space.lexer mode
  refine ⟨hsound.reserved, hkeeps.indexed hsound.indexed,
    fun letter hletter => hsound.letters letter (hkeeps.letters.subset hletter), ?_⟩
  intro other rule hrule
  rw [rulesIn_addMode] at hrule
  exact hsound.fragments other rule hrule

lemma Sound.addModes (hsound : space.Sound grammar) (states : List String) :
    (space.addModes states).Sound grammar := by
  induction states generalizing space with
  | nil => exact hsound
  | cons state states ih => exact ih (hsound.addMode (modeName state))

/-! ## The first workspace -/

lemma rulesIn_initialWorkspace (name : String) (grammar : Grammar) (mode : String) :
    (initialWorkspace name grammar).lexer.rulesIn mode = [] := by
  have hempty : (LexerGrammar.mk name [{ name := defaultMode }] [] false).rulesIn mode = [] := by
    unfold rulesIn LexerGrammar.mode?
    rw [List.find?_singleton]
    split <;> rename_i h
    · split at h
      · rw [← Option.some.inj h]
      · cases h
    · rfl
  rw [initialWorkspace]
  dsimp only
  split
  · exact hempty
  · exact hempty

/-- **The workspace is sound to begin with.** -/
lemma sound_initialWorkspace (name : String) (grammar : Grammar) :
    (initialWorkspace name grammar).Sound grammar := by
  refine ⟨rfl, ?_, ?_, ?_⟩
  · intro mode hmode
    have hmode' : mode = { name := defaultMode } := by
      rw [initialWorkspace] at hmode
      dsimp only at hmode
      split at hmode <;> exact List.mem_singleton.mp hmode
    rw [hmode']
    exact Mode.wellIndexed_empty defaultMode
  · intro letter hletter
    rw [initialWorkspace] at hletter
    dsimp only at hletter
    split at hletter
    · exact ⟨‹_›, hletter⟩
    · exact absurd hletter List.not_mem_nil
  · intro mode rule hrule
    rw [rulesIn_initialWorkspace] at hrule
    exact absurd hrule List.not_mem_nil

end Workspace

end GrammarConversion.Conversion
