import GrammarConversion.Proofs.LexerGrammar.Calls

/-!
# The order of the modes

Modes are listed in the order in which they are mentioned first, and searches through all rules go
through them in that order.  Additions do not depend on it: a rule is compared with the rules of its
own mode, and of the others only the names matter, of which a generated name is none.

**`Alike.addRule`: what is added to two grammars that are `Alike` comes to the same,** and leaves
them alike.  This is so of failures, too.
-/

namespace GrammarConversion.Antlr

namespace LexerGrammar

variable {lexer lexer' : LexerGrammar}

/-! ## Modes and their rules -/

lemma exists_mode?_iff {name : String} :
    (∃ found, lexer.mode? name = some found) ↔ name ∈ lexer.modes.map Mode.name := by
  rw [← Option.isSome_iff_exists, mode?, List.find?_isSome, List.mem_map]
  simp only [beq_iff_eq]

lemma mem_modes_addMode {name mode : String} :
    mode ∈ (lexer.addMode name).modes.map Mode.name
      ↔ mode ∈ lexer.modes.map Mode.name ∨ mode = name := by
  rw [map_name_addMode]
  split
  · exact ⟨.inl, fun h => h.elim id fun heq => heq ▸ ‹_›⟩
  · rw [List.mem_append, List.mem_singleton]

/-- A rule is appended to a mode that is there. -/
lemma rulesIn_append (lexer : LexerGrammar) (name : String) (rule : Rule) (other : String) :
    (lexer.append name rule).rulesIn other
      = if other = name ∧ name ∈ lexer.modes.map Mode.name then lexer.rulesIn other ++ [rule]
        else lexer.rulesIn other := by
  by_cases hother : other = name
  · subst hother
    cases hmode : lexer.mode? other with
    | some found =>
        rw [if_pos ⟨rfl, exists_mode?_iff.mp ⟨found, hmode⟩⟩, rulesIn_append_self hmode]
    | none =>
        rw [if_neg, rulesIn, rulesIn, mode?_append, hmode]
        · rfl
        · rintro ⟨-, hmem⟩
          rcases exists_mode?_iff.mpr hmem with ⟨found, hfound⟩
          rw [hmode] at hfound
          cases hfound
  · rw [if_neg fun h => hother h.1, rulesIn_append_of_ne lexer hother]

lemma bind_named?_eq (lexer : LexerGrammar) (mode name : String) :
    ((lexer.mode? mode).bind fun found => found.named? name)
      = (lexer.rulesIn mode).find? fun rule => rule.name == name := by
  rw [rulesIn]
  cases lexer.mode? mode <;> rfl

lemma InOrder.bind_indexed?_eq (h : lexer.InOrder) (mode : String) (body : Body) :
    ((lexer.mode? mode).bind fun found => found.indexed? body)
      = (lexer.rulesIn mode).find? (Mode.isRuleFor body) := by
  rw [rulesIn]
  cases hmode : lexer.mode? mode with
  | none => rfl
  | some found => exact (h.modes found (mem_modes_of_mode? hmode)).indexed.indexed?_eq body

/-- **All rules are the rules of the modes,** one mode after another. -/
lemma HasDistinctModes.rules_eq (h : lexer.HasDistinctModes) :
    lexer.rules = (lexer.modes.map Mode.name).flatMap lexer.rulesIn := by
  rw [rules, List.flatMap_map]
  exact List.flatMap_congr fun found hfound => (h.rulesIn_eq hfound).symm

/-! ## Grammars that are alike -/

/-- **Whether two lexer grammars are alike** but for the order of their modes. -/
structure Alike (lexer lexer' : LexerGrammar) : Prop where
  rules : ∀ mode, lexer'.rulesIn mode = lexer.rulesIn mode
  letters : lexer'.letterRules = lexer.letterRules
  modes : ∀ mode, mode ∈ lexer'.modes.map Mode.name ↔ mode ∈ lexer.modes.map Mode.name

lemma Alike.refl (lexer : LexerGrammar) : Alike lexer lexer :=
  ⟨fun _ => rfl, rfl, fun _ => Iff.rfl⟩

/-- **Whether two additions come to the same,** but for the order of the modes. -/
structure SameAddition {Names : Type} (added added' : Addition Names) : Prop where
  lexer : Alike added.lexer added'.lexer
  names : added'.names = added.names
  log : added'.log = added.log
  result : added'.result = added.result

/-- **The rules of all modes** are the same in another order. -/
lemma Alike.perm_rules (h : Alike lexer lexer') (hmodes : lexer.HasDistinctModes)
    (hmodes' : lexer'.HasDistinctModes) : lexer'.rules.Perm lexer.rules := by
  have hperm : (lexer'.modes.map Mode.name).Perm (lexer.modes.map Mode.name) :=
    (List.perm_ext_iff_of_nodup hmodes' hmodes).mpr h.modes
  rw [hmodes.rules_eq, hmodes'.rules_eq, funext h.rules]
  exact hperm.flatMap_right _

lemma Alike.isSome_ruleNamed? (h : Alike lexer lexer') (hmodes : lexer.HasDistinctModes)
    (hmodes' : lexer'.HasDistinctModes) (name : String) :
    (lexer'.ruleNamed? name).isSome = (lexer.ruleNamed? name).isSome := by
  rw [Bool.eq_iff_iff, ruleNamed?, ruleNamed?, List.find?_isSome, List.find?_isSome]
  simp only [(h.perm_rules hmodes hmodes').mem_iff]

/-! ## Additions to grammars that are alike -/

lemma Alike.addMode (h : Alike lexer lexer') (name : String) :
    Alike (lexer.addMode name) (lexer'.addMode name) := by
  refine ⟨fun mode => ?_, ?_, fun mode => ?_⟩
  · rw [rulesIn_addMode, rulesIn_addMode, h.rules]
  · rw [letterRules_addMode, letterRules_addMode, h.letters]
  · rw [mem_modes_addMode, mem_modes_addMode, h.modes]

lemma Alike.append (h : Alike lexer lexer') (name : String) (rule : Rule) :
    Alike (lexer.append name rule) (lexer'.append name rule) := by
  refine ⟨fun mode => ?_, h.letters, fun mode => ?_⟩
  · simp only [rulesIn_append, h.rules, h.modes]
  · rw [map_name_append, map_name_append, h.modes]

lemma Alike.dropLetter (h : Alike lexer lexer') (name : String) :
    Alike (lexer.dropLetter name) (lexer'.dropLetter name) :=
  ⟨h.rules, congrArg (List.filter _) h.letters, h.modes⟩

lemma Alike.place (h : Alike lexer lexer') (mode : String) (rule : Rule) :
    SameAddition (lexer.place mode rule) (lexer'.place mode rule) := by
  rw [LexerGrammar.place, LexerGrammar.place, bind_named?_eq, bind_named?_eq, h.rules]
  split
  · exact ⟨h, rfl, rfl, rfl⟩
  · split
    · split <;> exact ⟨h, rfl, rfl, rfl⟩
    · exact ⟨h.append mode rule, rfl, rfl, rfl⟩

lemma Alike.settle (h : Alike lexer lexer') (mode : String) (rule : Rule) :
    SameAddition (lexer.settle mode rule) (lexer'.settle mode rule) := by
  rw [LexerGrammar.settle, LexerGrammar.settle, letterRule?, letterRule?, h.letters]
  split
  · exact h.place mode rule
  · rename_i letter _
    split
    · have hplaced := (h.dropLetter rule.name).place mode { rule with body := letter.body }
      exact ⟨hplaced.lexer, hplaced.names, congrArg (List.cons _) hplaced.log, hplaced.result⟩
    · exact ⟨h, rfl, rfl, rfl⟩

/-- **An addition does not depend on the order of the modes.** -/
lemma Alike.addRule {Names : Type} (h : Alike lexer lexer') (hlexer : lexer.InOrder)
    (hlexer' : lexer'.InOrder) (mode : String) (rule : Rule) (names : Names)
    (draw? : Option (Names → String × Names)) :
    SameAddition (lexer.addRule mode rule names draw?) (lexer'.addRule mode rule names draw?) := by
  have hmode := h.addMode mode
  have horder := hlexer.addMode mode
  have horder' := hlexer'.addMode mode
  have htaken := hmode.isSome_ruleNamed? horder.distinctModes horder'.distinctModes
  have hlength := (hmode.perm_rules horder.distinctModes horder'.distinctModes).length_eq
  unfold LexerGrammar.addRule
  dsimp only
  rw [horder.bind_indexed?_eq, horder'.bind_indexed?_eq, hmode.rules, hlength, funext htaken]
  split
  · have hsettled := hmode.settle mode { rule with name := ruleName rule.name }
    exact ⟨hsettled.lexer, rfl, hsettled.log, hsettled.result⟩
  · split
    · exact ⟨hmode, rfl, rfl, rfl⟩
    · split
      · exact ⟨hmode, rfl, rfl, rfl⟩
      · have hsettled := fun name => hmode.settle mode { rule with name := ruleName name }
        exact ⟨(hsettled _).lexer, rfl, (hsettled _).log, (hsettled _).result⟩

end LexerGrammar

end GrammarConversion.Antlr
