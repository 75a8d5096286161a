import Mathlib.Tactic.Lemma
import GrammarConversion.Antlr.LexerGrammar

/-!
# The rules of the modes

A lexer grammar is built by a handful of operations, and for most of them all that matters is which
rules each mode has, and in which order: `LexerGrammar.rulesIn`.  Registering a mode and dropping a
letter rule change nothing there, and appending a rule changes one mode at its end.

**The index of a mode** is a shortcut.  `Mode.WellIndexed` says that it leads where a search through
the rules would lead, to the first rule that is no fragment and has the body.
-/

namespace GrammarConversion.Antlr

/-! ## The index of a mode -/

namespace Mode

/-- Whether a rule matches on its own what a body says. -/
def isRuleFor (body : Body) (rule : Rule) : Bool :=
  !rule.isFragment && rule.body.same body

/-- **The index leads to the first rule for a body.** -/
def WellIndexed (mode : Mode) : Prop :=
  ∀ body, mode.index.lookup body = mode.rules.findIdx? (isRuleFor body)

lemma isRuleFor_iff {body : Body} {rule : Rule} :
    isRuleFor body rule = true ↔
      rule.isFragment = false ∧ rule.body = body ∧ body.isParserPart = false := by
  rw [isRuleFor, Bool.and_eq_true, Body.same_iff, Bool.not_eq_true']
  constructor
  · rintro ⟨hfragment, rfl, hpart⟩
    exact ⟨hfragment, rfl, hpart⟩
  · rintro ⟨hfragment, rfl, hpart⟩
    exact ⟨hfragment, rfl, hpart⟩

lemma wellIndexed_empty (name : String) : WellIndexed { name := name } := by
  intro body
  rfl

/-- A rule that gets no entry of its own is a rule for no body, or has an earlier rule for it. -/
lemma WellIndexed.findIdx?_append_of_kept {mode : Mode} (h : mode.WellIndexed) {rule : Rule}
    (hkept : rule.isFragment = true ∨ rule.body.isParserPart = true ∨
      (mode.index.lookup rule.body).isSome = true) (body : Body) :
    (mode.rules ++ [rule]).findIdx? (isRuleFor body) = mode.rules.findIdx? (isRuleFor body) := by
  rw [List.findIdx?_append]
  by_cases hrule : isRuleFor body rule = true
  · rcases isRuleFor_iff.mp hrule with ⟨hfragment, rfl, hpart⟩
    have hsome : (mode.rules.findIdx? (isRuleFor rule.body)).isSome = true := by
      rw [← h rule.body]
      rcases hkept with hkept | hkept | hkept
      · rw [hfragment] at hkept
        exact Bool.noConfusion hkept
      · rw [hpart] at hkept
        exact Bool.noConfusion hkept
      · exact hkept
    exact Option.or_of_isSome hsome
  · rw [List.findIdx?_singleton, if_neg hrule, Option.map_none, Option.or_none]

lemma WellIndexed.append {mode : Mode} (h : mode.WellIndexed) (rule : Rule) :
    (mode.append rule).WellIndexed := by
  intro body
  rw [Mode.append]
  dsimp only
  split
  · rename_i hkept
    rw [h.findIdx?_append_of_kept (by simpa [or_assoc] using hkept), h body]
  · rename_i hnew
    simp only [Bool.or_eq_true, not_or, Bool.not_eq_true] at hnew
    rcases hnew with ⟨⟨hfragment, hpart⟩, -⟩
    rw [List.lookup_append, List.findIdx?_append, h body, List.findIdx?_singleton]
    congr 1
    by_cases hbody : rule.body = body
    · subst hbody
      have hrule : isRuleFor rule.body rule = true := isRuleFor_iff.mpr ⟨hfragment, rfl, hpart⟩
      simp [hrule]
    · have hrule : ¬isRuleFor body rule = true := fun hc => hbody (isRuleFor_iff.mp hc).2.1
      have hne : (body == rule.body) = false := by
        simpa using fun hc : body = rule.body => hbody hc.symm
      simp [hrule, List.lookup_cons, hne]

/-- **The index leads to the first rule for a body.** -/
lemma WellIndexed.indexed?_eq {mode : Mode} (h : mode.WellIndexed) (body : Body) :
    mode.indexed? body = mode.rules.find? (isRuleFor body) := by
  rw [indexed?, h body, List.find?_eq_bind_findIdx?_getElem?]

end Mode

/-! ## The rules of a mode by its name -/

namespace LexerGrammar

/-- **The rules of the mode with a name,** in the order of their priority; a mode that does not
exist has none. -/
def rulesIn (lexer : LexerGrammar) (name : String) : List Rule :=
  match lexer.mode? name with
  | some mode => mode.rules
  | none => []

lemma rulesIn_of_mode? {lexer : LexerGrammar} {name : String} {mode : Mode}
    (h : lexer.mode? name = some mode) : lexer.rulesIn name = mode.rules := by
  rw [rulesIn, h]

lemma name_of_mode? {lexer : LexerGrammar} {name : String} {mode : Mode}
    (h : lexer.mode? name = some mode) : mode.name = name := by
  simpa using List.find?_some h

lemma mem_modes_of_mode? {lexer : LexerGrammar} {name : String} {mode : Mode}
    (h : lexer.mode? name = some mode) : mode ∈ lexer.modes :=
  List.mem_of_find?_eq_some h

lemma mem_rules_of_mem_rulesIn {lexer : LexerGrammar} {name : String} {rule : Rule}
    (h : rule ∈ lexer.rulesIn name) : rule ∈ lexer.rules := by
  rw [rulesIn] at h
  split at h
  · rename_i mode hmode
    exact List.mem_flatMap.mpr ⟨mode, mem_modes_of_mode? hmode, h⟩
  · simp at h

/-! ## Registering a mode -/

lemma mode?_addMode_of_some {lexer : LexerGrammar} {name other : String} {mode : Mode}
    (h : lexer.mode? other = some mode) : (lexer.addMode name).mode? other = some mode := by
  rw [addMode]
  split
  · exact h
  · rw [mode?, List.find?_append]
    rw [mode?] at h
    rw [h, Option.some_or]

lemma mode?_addMode_self (lexer : LexerGrammar) (name : String) :
    ∃ mode, (lexer.addMode name).mode? name = some mode := by
  rw [addMode]
  split
  · rename_i hany
    rcases List.any_eq_true.mp hany with ⟨mode, hmode, hname⟩
    exact Option.isSome_iff_exists.mp (List.find?_isSome.mpr ⟨mode, hmode, hname⟩)
  · refine Option.isSome_iff_exists.mp (List.find?_isSome.mpr ⟨{ name := name }, ?_, ?_⟩)
    · simp
    · simp

/-- **Registering a mode changes no rules.** -/
@[simp]
lemma rulesIn_addMode (lexer : LexerGrammar) (name other : String) :
    (lexer.addMode name).rulesIn other = lexer.rulesIn other := by
  cases h : lexer.mode? other with
  | some mode => rw [rulesIn_of_mode? h, rulesIn_of_mode? (mode?_addMode_of_some h)]
  | none =>
      have hnone : lexer.rulesIn other = [] := by rw [rulesIn, h]
      rw [hnone]
      rw [addMode]
      split
      · exact hnone
      · rw [mode?] at h
        rw [rulesIn, mode?, List.find?_append, h, Option.none_or, List.find?_singleton]
        split <;> rename_i hfind
        · split at hfind
          · rw [← Option.some.inj hfind]
          · cases hfind
        · rfl

@[simp]
lemma rules_addMode (lexer : LexerGrammar) (name : String) :
    (lexer.addMode name).rules = lexer.rules := by
  rw [addMode]
  split
  · rfl
  · simp [rules]

@[simp]
lemma letterRules_addMode (lexer : LexerGrammar) (name : String) :
    (lexer.addMode name).letterRules = lexer.letterRules := by
  rw [addMode]
  split <;> rfl

lemma wellIndexed_addMode {lexer : LexerGrammar} (h : ∀ mode ∈ lexer.modes, mode.WellIndexed)
    (name : String) : ∀ mode ∈ (lexer.addMode name).modes, mode.WellIndexed := by
  rw [addMode]
  split
  · exact h
  · intro mode hmode
    rcases List.mem_append.mp hmode with hmode | hmode
    · exact h mode hmode
    · rw [List.mem_singleton.mp hmode]
      exact Mode.wellIndexed_empty name

/-! ## Appending a rule -/

lemma mode?_append (lexer : LexerGrammar) (name other : String) (rule : Rule) :
    (lexer.append name rule).mode? other
      = (lexer.mode? other).map fun mode =>
          if mode.name = name then mode.append rule else mode := by
  rw [mode?, append, List.find?_map, mode?]
  congr 2
  funext mode
  dsimp only [Function.comp]
  split <;> rfl

/-- **Appending a rule** puts it at the end of its mode. -/
lemma rulesIn_append_self {lexer : LexerGrammar} {name : String} {mode : Mode}
    (h : lexer.mode? name = some mode) (rule : Rule) :
    (lexer.append name rule).rulesIn name = lexer.rulesIn name ++ [rule] := by
  have happend : (lexer.append name rule).mode? name = some (mode.append rule) := by
    rw [mode?_append, h, Option.map_some, if_pos (name_of_mode? h)]
  rw [rulesIn_of_mode? happend, rulesIn_of_mode? h]
  rfl

/-- **Appending a rule** leaves the other modes alone. -/
lemma rulesIn_append_of_ne (lexer : LexerGrammar) {name other : String} (h : other ≠ name)
    (rule : Rule) : (lexer.append name rule).rulesIn other = lexer.rulesIn other := by
  rw [rulesIn, rulesIn, mode?_append]
  cases hmode : lexer.mode? other with
  | none => rfl
  | some mode =>
      rw [Option.map_some, if_neg]
      rw [name_of_mode? hmode]
      exact h

lemma wellIndexed_append {lexer : LexerGrammar} (h : ∀ mode ∈ lexer.modes, mode.WellIndexed)
    (name : String) (rule : Rule) :
    ∀ mode ∈ (lexer.append name rule).modes, mode.WellIndexed := by
  intro mode hmode
  rcases List.mem_map.mp hmode with ⟨original, horiginal, rfl⟩
  split
  · exact (h original horiginal).append rule
  · exact h original horiginal

/-! ## Dropping a letter rule -/

@[simp]
lemma rulesIn_dropLetter (lexer : LexerGrammar) (name other : String) :
    (lexer.dropLetter name).rulesIn other = lexer.rulesIn other := rfl

end LexerGrammar

end GrammarConversion.Antlr
