import Mathlib.Data.List.Induction
import GrammarConversion.Proofs.LexerGrammar.Lookup

/-!
# Lexer grammars that calls have built

Whoever builds a lexer grammar registers modes, enables letter rules and adds rules, in any order
and with any source of names, and may go on after a call that fails.  `LexerGrammar.built` is the
grammar after a list of such `Call`s.

A call that fails has done some of its work already: the mode is registered, and a letter rule may
be gone.  But it stores no rule, and each rule that is stored has passed all checks (`Extends`).  So
what one call keeps, all calls keep.

**`built_invariant`: what holds of every lexer grammar that calls have built.**  Its modes are in
the order in which they are mentioned first, the default mode before all others.  Within a mode
rules have different names, and the index leads to the first rule for a body.  No rule is stored
under its own body, or under a name that begins with an underscore.
-/

namespace GrammarConversion.Antlr

/-! ## Modes -/

namespace Mode

/-- **Whether the rules of a mode are in order:** no two have the same name, none has its name for
its body or begins with an underscore, and the index leads to them. -/
structure InOrder (mode : Mode) : Prop where
  nodup_names : (mode.rules.map Rule.name).Nodup
  body_ne : ∀ rule ∈ mode.rules, rule.body ≠ .text rule.name
  head?_ne : ∀ rule ∈ mode.rules, rule.name.toList.head? ≠ some '_'
  indexed : mode.WellIndexed

lemma inOrder_empty (name : String) : InOrder { name := name } :=
  ⟨List.nodup_nil, by simp, by simp, wellIndexed_empty name⟩

lemma InOrder.append {mode : Mode} (h : mode.InOrder) {rule : Rule}
    (hself : rule.body ≠ .text rule.name) (hhead : rule.name.toList.head? ≠ some '_')
    (hnew : ∀ other ∈ mode.rules, other.name ≠ rule.name) : (mode.append rule).InOrder := by
  have hrules : (mode.append rule).rules = mode.rules ++ [rule] := rfl
  refine ⟨?_, ?_, ?_, h.indexed.append rule⟩
  · rw [hrules, List.map_append, List.nodup_append]
    refine ⟨h.nodup_names, by simp, ?_⟩
    intro name hname last hlast
    rcases List.mem_map.mp hname with ⟨other, hother, rfl⟩
    rw [List.map_singleton, List.mem_singleton] at hlast
    rw [hlast]
    exact hnew other hother
  · rw [hrules, List.forall_mem_append, List.forall_mem_singleton]
    exact ⟨h.body_ne, hself⟩
  · rw [hrules, List.forall_mem_append, List.forall_mem_singleton]
    exact ⟨h.head?_ne, hhead⟩

end Mode

lemma head?_ruleName_ne (name : String) : (ruleName name).toList.head? ≠ some '_' := by
  rw [ruleName]
  split
  · simp [reservedStem]
  · assumption

/-! ## Calls -/

/-- **A call that builds a lexer grammar.**  A rule comes with a source of names for it, if there is
one: a state, and what draws a name from it. -/
inductive Call : Type 1 where
  | addMode (name : String)
  | enableLetters
  | addRule {Names : Type} (mode : String) (rule : Rule) (names : Names)
      (draw? : Option (Names → String × Names))

namespace Call

/-- The mode that a call mentions. -/
def mode? : Call → Option String
  | .addMode name => some name
  | .enableLetters => none
  | .addRule mode _ _ _ => some mode

/-- The grammar that a call leaves, also when it fails. -/
def run (call : Call) (lexer : LexerGrammar) : LexerGrammar :=
  match call with
  | .addMode name => lexer.addMode name
  | .enableLetters => lexer.enableLetters
  | .addRule mode rule names draw? => (lexer.addRule mode rule names draw?).lexer

end Call

namespace LexerGrammar

/-- **The lexer grammar that several calls have built.** -/
def built (name : String) (calls : List Call) : LexerGrammar :=
  calls.foldl (fun lexer call => call.run lexer) { name := name }

lemma built_append_singleton (name : String) (calls : List Call) (call : Call) :
    built name (calls ++ [call]) = call.run (built name calls) := by
  rw [built, List.foldl_append]
  rfl

variable {lexer lexer' : LexerGrammar} {mode name : String} {rule : Rule}
  {result : Except Failure (Option Rule)}

/-! ## What a call stores -/

/-- **What an addition does to the modes,** also when it fails: nothing, or it adds a rule at the
end of a mode that has none of that name. -/
inductive Extends (lexer : LexerGrammar) (mode name : String) (lexer' : LexerGrammar) : Prop
  | same (hmodes : lexer'.modes = lexer.modes)
  | appended {rule : Rule} (hname : rule.name = name) (hself : rule.body ≠ .text rule.name)
      (hnew : ∀ other ∈ lexer.rulesIn mode, other.name ≠ rule.name)
      (hmodes : lexer'.modes = (lexer.append mode rule).modes)

lemma Placing.extends_modes (h : Placing lexer mode rule lexer' result) :
    Extends lexer mode rule.name lexer' := by
  cases h with
  | appended hself hnew => exact .appended rfl hself hnew rfl
  | _ => exact .same rfl

lemma Settling.extends_modes (h : Settling lexer mode rule lexer' result) :
    Extends lexer mode rule.name lexer' := by
  cases h with
  | ordinary _ hplace => exact hplace.extends_modes
  | letter _ _ hplace =>
      cases hplace.extends_modes with
      | same hmodes => exact .same hmodes
      | appended hname hself hnew hmodes => exact .appended hname hself hnew hmodes
  | refused => exact .same rfl

lemma Adding.extends_modes {Names : Type} {names names' : Names}
    {draw? : Option (Names → String × Names)}
    (h : Adding lexer mode rule names draw? lexer' names' result) :
    ∃ given, Extends (lexer.addMode mode) mode (ruleName given) lexer' := by
  cases h with
  | named _ hsettle => exact ⟨_, hsettle.extends_modes⟩
  | drawn _ _ _ hsettle => exact ⟨_, hsettle.extends_modes⟩
  | _ => exact ⟨"", .same rfl⟩

lemma rulesIn_of_modes_eq (h : lexer'.modes = lexer.modes) (mode : String) :
    lexer'.rulesIn mode = lexer.rulesIn mode := by
  rw [rulesIn, rulesIn, mode?, mode?, h]

lemma Extends.rulesIn_grow (h : Extends (lexer.addMode mode) mode name lexer') (other : String) :
    lexer.rulesIn other <+: lexer'.rulesIn other := by
  rw [← rulesIn_addMode lexer mode other]
  cases h with
  | same hmodes => simp only [rulesIn_of_modes_eq hmodes, List.prefix_refl]
  | appended _ _ _ hmodes =>
      rw [rulesIn_of_modes_eq hmodes]
      by_cases hother : other = mode
      · rcases mode?_addMode_self lexer mode with ⟨found, hfound⟩
        rw [hother, rulesIn_append_self hfound]
        exact List.prefix_append _ _
      · simp only [rulesIn_append_of_ne _ hother, List.prefix_refl]

lemma Extends.map_name_eq (h : Extends lexer mode name lexer') :
    lexer'.modes.map Mode.name = lexer.modes.map Mode.name := by
  cases h with
  | same hmodes => rw [hmodes]
  | appended _ _ _ hmodes => rw [hmodes, map_name_append]

/-! ## What a call keeps -/

/-- **What every call keeps.** -/
structure InOrder (lexer : LexerGrammar) : Prop where
  distinctModes : lexer.HasDistinctModes
  modes : ∀ mode ∈ lexer.modes, mode.InOrder
  letters : lexer.letterRules.Sublist allLetterRules

/-- A mode has one rule of a name. -/
lemma InOrder.eq_of_name (h : lexer.InOrder) {other : Rule} (hrule : rule ∈ lexer.rulesIn mode)
    (hother : other ∈ lexer.rulesIn mode) (hname : other.name = rule.name) : other = rule := by
  rcases mem_mode_of_mem_rulesIn hrule with ⟨found, hfound, rfl, hmem⟩
  rw [h.distinctModes.rulesIn_eq hfound] at hother
  exact List.inj_on_of_nodup_map (h.modes found hfound).nodup_names hother hmem hname

lemma InOrder.addMode (h : lexer.InOrder) (name : String) : (lexer.addMode name).InOrder := by
  refine ⟨h.distinctModes.addMode name, ?_, by rw [letterRules_addMode]; exact h.letters⟩
  rw [LexerGrammar.addMode]
  split
  · exact h.modes
  · rw [List.forall_mem_append, List.forall_mem_singleton]
    exact ⟨h.modes, Mode.inOrder_empty name⟩

lemma InOrder.enableLetters (h : lexer.InOrder) : lexer.enableLetters.InOrder := by
  rw [LexerGrammar.enableLetters]
  split
  · exact h
  · exact ⟨h.distinctModes, h.modes, List.Sublist.refl _⟩

lemma InOrder.modes_of_extends {given : String} (h : lexer.InOrder)
    (hextends : Extends lexer mode (ruleName given) lexer') :
    ∀ found ∈ lexer'.modes, found.InOrder := by
  cases hextends with
  | same hmodes =>
      rw [hmodes]
      exact h.modes
  | appended hname hself hnew hmodes =>
      rw [hmodes]
      intro found hfound
      rcases List.mem_map.mp hfound with ⟨original, horiginal, rfl⟩
      split
      · rename_i hmode
        have hrules := h.distinctModes.rulesIn_eq horiginal
        rw [hmode] at hrules
        rw [hrules] at hnew
        exact (h.modes original horiginal).append hself (hname ▸ head?_ruleName_ne given) hnew
      · exact h.modes original horiginal

/-- **A call keeps a lexer grammar in order,** also when it fails. -/
lemma InOrder.run (h : lexer.InOrder) (call : Call) : (call.run lexer).InOrder := by
  cases call with
  | addMode name => exact h.addMode name
  | enableLetters => exact h.enableLetters
  | addRule mode rule names draw? =>
      have hadding := addRule_cases lexer mode rule names draw?
      rcases hadding.extends_modes with ⟨given, hextends⟩
      exact ⟨hadding.keepsShape.distinct h.distinctModes,
        (h.addMode mode).modes_of_extends hextends, hadding.keeps.letters.trans h.letters⟩

lemma rulesIn_run_grow (call : Call) (lexer : LexerGrammar) (mode : String) :
    lexer.rulesIn mode <+: (call.run lexer).rulesIn mode := by
  cases call with
  | addMode name =>
      show _ <+: (lexer.addMode name).rulesIn mode
      simp only [rulesIn_addMode, List.prefix_refl]
  | enableLetters =>
      have hmodes : lexer.enableLetters.modes = lexer.modes := by
        rw [LexerGrammar.enableLetters]
        split <;> rfl
      show _ <+: lexer.enableLetters.rulesIn mode
      simp only [rulesIn_of_modes_eq hmodes, List.prefix_refl]
  | addRule name rule names draw? =>
      rcases (addRule_cases lexer name rule names draw?).extends_modes with ⟨given, hextends⟩
      exact hextends.rulesIn_grow mode

/-! ## The order of the modes -/

lemma map_name_addMode (lexer : LexerGrammar) (name : String) :
    (lexer.addMode name).modes.map Mode.name
      = if name ∈ lexer.modes.map Mode.name then lexer.modes.map Mode.name
        else lexer.modes.map Mode.name ++ [name] := by
  have hany : (lexer.modes.any fun mode => mode.name == name) = true
      ↔ name ∈ lexer.modes.map Mode.name := by
    simp [List.any_eq_true, List.mem_map]
  rw [addMode]
  by_cases hname : name ∈ lexer.modes.map Mode.name
  · rw [if_pos (hany.mpr hname), if_pos hname]
  · rw [if_neg (hany.not.mpr hname), if_neg hname, List.map_append]
    rfl

/-- A name that is mentioned once more comes last if it has not been mentioned before. -/
lemma eraseDups_append_singleton (names : List String) (name : String) :
    (names ++ [name]).eraseDups
      = if name ∈ names.eraseDups then names.eraseDups else names.eraseDups ++ [name] := by
  rw [List.eraseDups_append]
  by_cases hname : name ∈ names
  · simp [List.removeAll, hname]
  · simp [List.removeAll, hname, List.eraseDups_cons]

lemma map_name_run (call : Call) (lexer : LexerGrammar) :
    (call.run lexer).modes.map Mode.name
      = (call.mode?.map fun name => (lexer.addMode name).modes.map Mode.name).getD
          (lexer.modes.map Mode.name) := by
  cases call with
  | addMode name => rfl
  | enableLetters =>
      show lexer.enableLetters.modes.map Mode.name = _
      rw [enableLetters]
      split <;> rfl
  | addRule mode rule names draw? =>
      rcases (addRule_cases lexer mode rule names draw?).extends_modes with ⟨given, hextends⟩
      exact hextends.map_name_eq

/-- **Modes are in the order in which they are mentioned first.** -/
lemma map_name_built (name : String) (calls : List Call) :
    (built name calls).modes.map Mode.name
      = (defaultMode :: calls.filterMap Call.mode?).eraseDups := by
  induction calls using List.reverseRecOn with
  | nil => rfl
  | append_singleton calls call ih =>
      rw [built_append_singleton, map_name_run, List.filterMap_append]
      cases hmode : call.mode? with
      | none => simp [hmode, ih]
      | some mode =>
          have hmentioned : [call].filterMap Call.mode? = [mode] := by simp [hmode]
          rw [hmentioned, ← List.cons_append, eraseDups_append_singleton, ← ih]
          exact map_name_addMode (built name calls) mode

/-! ## All calls -/

lemma inOrder_built (name : String) (calls : List Call) : (built name calls).InOrder := by
  induction calls using List.reverseRecOn with
  | nil =>
      refine ⟨List.nodup_singleton _, ?_, List.nil_sublist _⟩
      show ∀ mode ∈ [{ name := defaultMode }], Mode.InOrder mode
      rw [List.forall_mem_singleton]
      exact Mode.inOrder_empty defaultMode
  | append_singleton calls call ih =>
      rw [built_append_singleton]
      exact ih.run call

lemma rulesIn_built_grow (name : String) (calls later : List Call) (mode : String) :
    (built name calls).rulesIn mode <+: (built name (calls ++ later)).rulesIn mode := by
  induction later using List.reverseRecOn with
  | nil => simp only [List.append_nil, List.prefix_refl]
  | append_singleton later call ih =>
      rw [← List.append_assoc, built_append_singleton]
      exact ih.trans (rulesIn_run_grow call _ mode)

/-- **What holds of every lexer grammar that calls have built,** with any modes, rules and sources
of names, and whether or not they fail.

* The default mode is the first one, and all others are in the order of their first mention.
* The rules of a mode have different names, none of which is the body of its rule or begins with an
  underscore.
* The index of a mode has an entry for the bodies of those rules that are no fragments, and for no
  others, which is the position of the first rule with the body.
* The letter rules that are left are those of some letters from `A` to `Z`, in that order.
* More calls only add rules at the end of a mode. -/
theorem built_invariant (name : String) (calls : List Call) :
    (built name calls).modes.map Mode.name
        = (defaultMode :: calls.filterMap Call.mode?).eraseDups ∧
      (∀ mode ∈ (built name calls).modes,
        (mode.rules.map Rule.name).Nodup ∧
          (∀ rule ∈ mode.rules,
            rule.body ≠ .text rule.name ∧ rule.name.toList.head? ≠ some '_') ∧
          ∀ body, mode.index.lookup body
            = mode.rules.findIdx? fun rule => !rule.isFragment && rule.body.same body) ∧
      (built name calls).letterRules.Sublist allLetterRules ∧
      ∀ later mode,
        (built name calls).rulesIn mode <+: (built name (calls ++ later)).rulesIn mode := by
  have hinorder := inOrder_built name calls
  refine ⟨map_name_built name calls, fun mode hmode => ?_, hinorder.letters,
    rulesIn_built_grow name calls⟩
  have hmodeinorder := hinorder.modes mode hmode
  exact ⟨hmodeinorder.nodup_names,
    fun rule hrule => ⟨hmodeinorder.body_ne rule hrule, hmodeinorder.head?_ne rule hrule⟩,
    hmodeinorder.indexed⟩

end LexerGrammar

end GrammarConversion.Antlr
