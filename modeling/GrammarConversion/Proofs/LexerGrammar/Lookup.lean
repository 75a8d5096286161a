import Mathlib.Data.List.Nodup
import Mathlib.Data.List.Pairwise
import Mathlib.Tactic.Lemma
import GrammarConversion.Proofs.LexerGrammar.Addition

/-!
# Looking rules up in all modes

A rule is looked for by its body, and if no rule has the body, by its name: `Rule.Covers` holds of
the rules that such a search may find.  It holds of every rule that an addition stores
(`Settling.covers`), whether or not that rule takes the place of a letter rule.

Searches go through all modes, one after another.  Modes are told apart by their names
(`HasDistinctModes`), and additions keep it that way (`Adding.distinctModes`).
-/

namespace GrammarConversion.Antlr

/-- **Whether a rule stands for a body:** it has the body, or the body is its name. -/
def Rule.Covers (rule : Rule) (body : Body) : Prop :=
  rule.body = body ∨ body = .text rule.name

namespace LexerGrammar

variable {lexer lexer' : LexerGrammar} {mode : String} {rule stored : Rule}
  {result : Except Failure (Option Rule)}

/-! ## Searches -/

/-- **A search finds a rule** if there is one for the text. -/
lemma exists_ruleForBody? {content : String} (hrule : rule ∈ lexer.rules)
    (htoken : rule.isFragment = false) (hcovers : rule.Covers (.text content)) :
    ∃ found, lexer.ruleForBody? (.text content) = some found := by
  rw [ruleForBody?]
  split
  · exact ⟨_, rfl⟩
  · rename_i hnone
    refine Option.isSome_iff_exists.mp (List.find?_isSome.mpr ⟨rule, hrule, ?_⟩)
    rcases hcovers with hbody | hname
    · exact absurd (List.find?_eq_none.mp hnone rule hrule) (by simp [htoken, hbody])
    · simp [htoken, hname]

/-- **Whether a mode has a token rule for a body.** -/
def HasToken (lexer : LexerGrammar) (mode : String) (body : Body) : Prop :=
  ∃ rule ∈ lexer.rulesIn mode, rule.isFragment = false ∧ rule.Covers body

/-- The first token rule with a body, in any mode. -/
def ruleWithBody? (lexer : LexerGrammar) (body : Body) : Option Rule :=
  lexer.rules.find? fun rule => !rule.isFragment && rule.body.same body

/-- **A rule with the body is preferred** to the rule that the body names. -/
lemma ruleForBody?_of_ruleWithBody? {body : Body} (h : lexer.ruleWithBody? body = some rule) :
    lexer.ruleForBody? body = some rule := by
  rw [ruleWithBody?] at h
  rw [ruleForBody?, h]

lemma ruleForBody?_cases {body : Body} (h : lexer.ruleForBody? body = some rule) :
    rule ∈ lexer.rules ∧ rule.isFragment = false ∧
      (lexer.ruleWithBody? body = some rule ∧ rule.body = body ∨ body = .text rule.name) := by
  rw [ruleForBody?] at h
  split at h
  · rename_i found hfound
    obtain rfl : found = rule := Option.some.inj h
    have hfind := List.find?_some hfound
    rw [Bool.and_eq_true, Bool.not_eq_true', Body.same_iff] at hfind
    exact ⟨List.mem_of_find?_eq_some hfound, hfind.1, .inl ⟨hfound, hfind.2.1⟩⟩
  · have hfind := List.find?_some h
    rw [Bool.and_eq_true, Bool.not_eq_true', beq_iff_eq] at hfind
    exact ⟨List.mem_of_find?_eq_some h, hfind.1, .inr hfind.2⟩

/-- **What a search finds** is a rule for the body, and no fragment. -/
lemma of_ruleForBody?_eq_some {body : Body} (h : lexer.ruleForBody? body = some rule) :
    rule ∈ lexer.rules ∧ rule.isFragment = false ∧ rule.Covers body := by
  rcases ruleForBody?_cases h with ⟨hmem, htoken, hcovers⟩
  exact ⟨hmem, htoken, hcovers.imp_left And.right⟩

/-- **What is found for a literal** is no fragment. -/
lemma of_ruleForImage?_eq_some {image : String} (h : lexer.ruleForImage? image = some rule) :
    rule ∈ lexer.rules ∧ rule.isFragment = false := by
  rw [ruleForImage?] at h
  split at h
  · rename_i found hfound
    obtain rfl : found = rule := Option.some.inj h
    exact ⟨(of_ruleForBody?_eq_some hfound).1, (of_ruleForBody?_eq_some hfound).2.1⟩
  · split at h
    · exact ⟨(of_ruleForBody?_eq_some h).1, (of_ruleForBody?_eq_some h).2.1⟩
    · cases h

/-! ## Modes with different names -/

/-- **No two modes have the same name.** -/
def HasDistinctModes (lexer : LexerGrammar) : Prop :=
  (lexer.modes.map Mode.name).Nodup

lemma HasDistinctModes.rulesIn_eq (h : lexer.HasDistinctModes) {found : Mode}
    (hfound : found ∈ lexer.modes) : lexer.rulesIn found.name = found.rules := by
  obtain ⟨first, hfirst⟩ : ∃ first, lexer.mode? found.name = some first :=
    Option.isSome_iff_exists.mp (List.find?_isSome.mpr ⟨found, hfound, by simp⟩)
  have hsame : first = found :=
    List.inj_on_of_nodup_map h (mem_modes_of_mode? hfirst) hfound (name_of_mode? hfirst)
  rw [rulesIn_of_mode? hfirst, hsame]

lemma mem_mode_of_mem_rulesIn (h : rule ∈ lexer.rulesIn mode) :
    ∃ found ∈ lexer.modes, found.name = mode ∧ rule ∈ found.rules := by
  rw [rulesIn] at h
  split at h
  · rename_i found hfound
    exact ⟨found, mem_modes_of_mode? hfound, name_of_mode? hfound, h⟩
  · exact absurd h List.not_mem_nil

lemma HasDistinctModes.exists_mode (h : lexer.HasDistinctModes) (hrule : rule ∈ lexer.rules) :
    ∃ mode, rule ∈ lexer.rulesIn mode := by
  rcases List.mem_flatMap.mp hrule with ⟨found, hfound, hmem⟩
  exact ⟨found.name, by rwa [h.rulesIn_eq hfound]⟩

/-- **Names differ over all modes** if they do within each mode and between any two. -/
lemma HasDistinctModes.nodup_names_iff (h : lexer.HasDistinctModes) :
    (lexer.rules.map Rule.name).Nodup ↔
      (∀ mode, ((lexer.rulesIn mode).map Rule.name).Nodup) ∧
        ∀ mode mode', mode ≠ mode' → ∀ rule ∈ lexer.rulesIn mode,
          ∀ rule' ∈ lexer.rulesIn mode', rule'.name ≠ rule.name := by
  have hmodes : lexer.modes.Pairwise fun first second => first.name ≠ second.name :=
    List.pairwise_map.mp h
  rw [rules, List.map_flatMap, List.nodup_flatMap]
  constructor
  · rintro ⟨heach, hbetween⟩
    have hdisjoint : ∀ first ∈ lexer.modes, ∀ second ∈ lexer.modes, first.name ≠ second.name →
        (first.rules.map Rule.name).Disjoint (second.rules.map Rule.name) := by
      intro first hfirst second hsecond hne
      have hsymm : Std.Symm (Function.onFun List.Disjoint fun found : Mode =>
          found.rules.map Rule.name) := ⟨fun _ _ hapart _ hfirst hsecond => hapart hsecond hfirst⟩
      exact hbetween.forall hfirst hsecond fun hsame => hne (congrArg Mode.name hsame)
    refine ⟨fun mode => ?_, fun mode mode' hne rule hrule rule' hrule' hname => ?_⟩
    · cases hmode : lexer.mode? mode with
      | none => simp [rulesIn, hmode]
      | some found =>
          rw [rulesIn_of_mode? hmode]
          exact heach found (mem_modes_of_mode? hmode)
    · rcases mem_mode_of_mem_rulesIn hrule with ⟨first, hfirst, rfl, hmem⟩
      rcases mem_mode_of_mem_rulesIn hrule' with ⟨second, hsecond, rfl, hmem'⟩
      refine hdisjoint first hfirst second hsecond hne (List.mem_map_of_mem hmem) ?_
      rw [← hname]
      exact List.mem_map_of_mem hmem'
  · rintro ⟨heach, hbetween⟩
    refine ⟨fun found hfound => by simpa only [h.rulesIn_eq hfound] using heach found.name,
      hmodes.imp_of_mem fun {first second} hfirst hsecond hne => ?_⟩
    intro name hname hname'
    rcases List.mem_map.mp hname with ⟨rule, hrule, rfl⟩
    rcases List.mem_map.mp hname' with ⟨rule', hrule', hsame⟩
    rw [← h.rulesIn_eq hfirst] at hrule
    rw [← h.rulesIn_eq hsecond] at hrule'
    exact hbetween _ _ hne rule hrule rule' hrule' hsame

lemma HasDistinctModes.addMode (h : lexer.HasDistinctModes) (name : String) :
    (lexer.addMode name).HasDistinctModes := by
  rw [LexerGrammar.addMode]
  split
  · exact h
  · rename_i hnew
    rw [HasDistinctModes, List.map_append, List.nodup_append]
    refine ⟨h, by simp, ?_⟩
    intro first hfirst second hsecond
    rcases List.mem_map.mp hfirst with ⟨found, hfound, rfl⟩
    rw [List.map_singleton, List.mem_singleton] at hsecond
    rw [hsecond]
    exact fun hname => hnew (List.any_eq_true.mpr ⟨found, hfound, by simp [hname]⟩)

lemma map_name_append (lexer : LexerGrammar) (name : String) (rule : Rule) :
    (lexer.append name rule).modes.map Mode.name = lexer.modes.map Mode.name := by
  rw [LexerGrammar.append, List.map_map]
  refine List.map_congr_left fun found _ => ?_
  dsimp only [Function.comp]
  split <;> rfl

lemma HasDistinctModes.append (h : lexer.HasDistinctModes) (name : String) (rule : Rule) :
    (lexer.append name rule).HasDistinctModes := by
  rw [HasDistinctModes, map_name_append]
  exact h

/-! ## What additions keep -/

/-- Modes stay and keep apart, and it is settled from the beginning whether case matters. -/
structure KeepsShape (lexer lexer' : LexerGrammar) : Prop where
  names : lexer.modes.map Mode.name <+: lexer'.modes.map Mode.name
  distinct : lexer.HasDistinctModes → lexer'.HasDistinctModes
  caseInsensitive : lexer'.caseInsensitive = lexer.caseInsensitive

lemma KeepsShape.trans {first second third : LexerGrammar} (h : KeepsShape first second)
    (h' : KeepsShape second third) : KeepsShape first third :=
  ⟨h.names.trans h'.names, fun hdistinct => h'.distinct (h.distinct hdistinct),
    h'.caseInsensitive.trans h.caseInsensitive⟩

lemma keepsShape_addMode (lexer : LexerGrammar) (name : String) :
    KeepsShape lexer (lexer.addMode name) := by
  refine ⟨?_, fun h => h.addMode name, ?_⟩
  · rw [addMode]
    split
    · exact List.prefix_refl _
    · rw [List.map_append]
      exact List.prefix_append _ _
  · rw [addMode]
    split <;> rfl

lemma KeepsShape.refl (lexer : LexerGrammar) : KeepsShape lexer lexer :=
  ⟨List.prefix_refl _, id, rfl⟩

lemma Placing.keepsShape (h : Placing lexer mode rule lexer' result) :
    KeepsShape lexer lexer' := by
  cases h with
  | appended =>
      refine ⟨?_, fun h => h.append mode rule, rfl⟩
      simp only [map_name_append, List.prefix_refl]
  | _ => exact KeepsShape.refl lexer

lemma Settling.keepsShape (h : Settling lexer mode rule lexer' result) :
    KeepsShape lexer lexer' := by
  cases h with
  | ordinary _ hplace => exact hplace.keepsShape
  | letter _ _ hplace =>
      have hdrop : KeepsShape lexer (lexer.dropLetter rule.name) :=
        ⟨List.prefix_refl _, id, rfl⟩
      exact hdrop.trans hplace.keepsShape
  | refused => exact KeepsShape.refl lexer

lemma Adding.keepsShape {Names : Type} {names names' : Names}
    {draw? : Option (Names → String × Names)}
    (h : Adding lexer mode rule names draw? lexer' names' result) : KeepsShape lexer lexer' := by
  cases h with
  | named _ hsettle => exact (keepsShape_addMode lexer mode).trans hsettle.keepsShape
  | drawn _ _ _ hsettle => exact (keepsShape_addMode lexer mode).trans hsettle.keepsShape
  | _ => exact keepsShape_addMode lexer mode

/-! ## Letter rules and stored rules -/

lemma Placing.letterRules_eq (h : Placing lexer mode rule lexer' result) :
    lexer'.letterRules = lexer.letterRules := by
  cases h with
  | _ => rfl

/-- **Only the letter rule with the name of the rule is dropped.** -/
lemma Settling.mem_letterRules (h : Settling lexer mode rule lexer' result) {letter : Rule}
    (hletter : letter ∈ lexer.letterRules) :
    letter ∈ lexer'.letterRules ∨ letter.name = rule.name := by
  cases h with
  | ordinary _ hplace =>
      rw [hplace.letterRules_eq]
      exact .inl hletter
  | letter _ _ hplace =>
      rw [hplace.letterRules_eq]
      by_cases hname : letter.name = rule.name
      · exact .inr hname
      · exact .inl (mem_letterRules_dropLetter.mpr ⟨hletter, hname⟩)
  | refused => exact .inl hletter

/-- **A rule that is stored stands for the body that was asked for.** -/
lemma Settling.covers (h : Settling lexer mode rule lexer' (.ok (some stored))) {found : Mode}
    (hmode : lexer.mode? mode = some found) : stored.Covers rule.body := by
  cases h with
  | ordinary _ hplace => exact .inl (hplace.settled hmode).2.1
  | @letter _ _ letter _ hbody hplace =>
      rcases hplace.settled hmode with ⟨hname, hstored, -⟩
      rcases hbody with hself | hletter
      · exact .inr (by rw [hself, hname])
      · exact .inl (hstored.trans hletter.symm)

/-- A rule that takes the place of a letter rule is stored. -/
lemma Settling.ordinary_of_none
    (hletters : ∀ letter ∈ lexer.letterRules, letter ∈ allLetterRules)
    (h : Settling lexer mode rule lexer' (.ok none)) :
    lexer.letterRule? rule.name = none ∧ lexer' = lexer := by
  cases h with
  | ordinary hletter hplace => exact ⟨hletter, hplace.eq_of_none⟩
  | @letter _ _ letter hletter _ hplace =>
      rcases of_letterRule?_eq_some hletter with ⟨hmem, hname⟩
      cases hplace with
      | dropped hself =>
          rw [← hname] at hself
          exact absurd hself (letter_body_ne letter (hletters letter hmem))

/-- **No letter rule is left with the name of a rule that is stored.** -/
lemma Settling.letter_name_ne (h : Settling lexer mode rule lexer' (.ok (some stored)))
    {letter : Rule} (hletter : letter ∈ lexer'.letterRules) : letter.name ≠ rule.name := by
  cases h with
  | ordinary hnone hplace =>
      rw [hplace.letterRules_eq] at hletter
      exact letterRule?_eq_none_iff.mp hnone letter hletter
  | letter _ _ hplace =>
      rw [hplace.letterRules_eq] at hletter
      exact (mem_letterRules_dropLetter.mp hletter).2

/-- **A rule that takes the place of a letter rule has its body.** -/
lemma Settling.body_eq_of_letter
    (hletters : ∀ letter ∈ lexer.letterRules, letter ∈ allLetterRules)
    (h : Settling lexer mode rule lexer' (.ok (some stored))) {found : Mode}
    (hmode : lexer.mode? mode = some found) {letter : Rule} (hletter : letter ∈ lexer.letterRules)
    (hname : letter.name = rule.name) : stored.body = letter.body := by
  cases h with
  | ordinary hnone hplace =>
      exact absurd hname (letterRule?_eq_none_iff.mp hnone letter hletter)
  | @letter _ _ first hfirst _ hplace =>
      rcases of_letterRule?_eq_some hfirst with ⟨hmem, hfirstname⟩
      have hsame : first = letter := List.inj_on_of_nodup_map nodup_letter_names
        (hletters first hmem) (hletters letter hletter) (hfirstname.trans hname.symm)
      rw [(hplace.settled hmode).2.1, hsame]

end LexerGrammar

end GrammarConversion.Antlr
