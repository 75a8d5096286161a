import Mathlib.Data.List.Perm.Basic
import GrammarConversion.Proofs.LexerGrammar.Lookup

/-!
# The document of a lexer grammar

A document shows the default mode, and every other mode that has rules, each in a section.  Letter
rules that no rule has taken the place of come last in the section of the default mode.

* `documentRules_perm`: **the rules of a document are the stored rules and the letter rules** that
  are left, each as often as it is there, as long as the default mode exists.
* `declaresMode_of_mem_rulesIn`: **a mode with a rule has a header.**
-/

namespace GrammarConversion.Antlr

namespace LexerGrammar

/-- **The rules of the document,** in its order. -/
def documentRules (lexer : LexerGrammar) : List Rule :=
  lexer.shownModes.flatMap lexer.shownRules

/-- **Whether a document holds the header of the section for a mode.** -/
def DeclaresMode (document mode : String) : Prop :=
  ("\n" ++ ("mode " ++ mode ++ ";\n")).toList <:+: document.toList

instance (document mode : String) : Decidable (DeclaresMode document mode) :=
  inferInstanceAs (Decidable (_ <:+: _))

section Document

variable {lexer : LexerGrammar} {mode : String} {rule : Rule}

/-! ## The rules -/

/-- A mode without a section would show no rules. -/
lemma documentRules_eq (lexer : LexerGrammar) :
    lexer.documentRules = lexer.modes.flatMap lexer.shownRules := by
  rw [documentRules, shownModes]
  induction lexer.modes with
  | nil => rfl
  | cons found others ih =>
      rw [List.filter_cons, List.flatMap_cons, ← ih]
      split
      · rw [List.flatMap_cons]
      · rename_i hhidden
        rw [Bool.or_eq_true, not_or, decide_eq_true_eq, Bool.not_eq_true', Bool.not_eq_false,
          List.isEmpty_iff] at hhidden
        rw [shownRules, if_neg hhidden.1, hhidden.2, List.nil_append]

lemma mem_documentRules (h : rule ∈ lexer.documentRules) :
    rule ∈ lexer.rules ∨ rule ∈ lexer.letterRules := by
  rw [documentRules_eq] at h
  rcases List.mem_flatMap.mp h with ⟨found, hfound, hmem⟩
  rw [shownRules] at hmem
  split at hmem
  · exact (List.mem_append.mp hmem).imp_left
      fun hrule => List.mem_flatMap.mpr ⟨found, hfound, hrule⟩
  · exact .inl (List.mem_flatMap.mpr ⟨found, hfound, hmem⟩)

lemma mem_documentRules_of_mem_rules (h : rule ∈ lexer.rules) : rule ∈ lexer.documentRules := by
  rw [documentRules_eq]
  rcases List.mem_flatMap.mp h with ⟨found, hfound, hmem⟩
  refine List.mem_flatMap.mpr ⟨found, hfound, ?_⟩
  rw [shownRules]
  split
  · exact List.mem_append_left _ hmem
  · exact hmem

/-- **What only one mode contributes to stands there alone.** -/
lemma HasDistinctModes.flatMap_eq {α : Type} (h : lexer.HasDistinctModes) {found : Mode}
    (hfound : found ∈ lexer.modes) {f : Mode → List α}
    (hothers : ∀ other ∈ lexer.modes, other.name ≠ found.name → f other = []) :
    lexer.modes.flatMap f = f found := by
  rcases List.append_of_mem hfound with ⟨earlier, later, hmodes⟩
  rw [HasDistinctModes, hmodes, List.map_append, List.map_cons] at h
  rw [hmodes] at hothers ⊢
  have hearlier : earlier.flatMap f = [] := by
    refine List.flatMap_eq_nil_iff.mpr fun other hother => hothers other (by simp [hother]) ?_
    intro hname
    refine (List.disjoint_of_nodup_append h) (List.mem_map_of_mem hother) ?_
    rw [hname]
    exact List.mem_cons_self
  have hlater : later.flatMap f = [] := by
    refine List.flatMap_eq_nil_iff.mpr fun other hother => hothers other (by simp [hother]) ?_
    intro hname
    refine (List.nodup_cons.mp (List.nodup_append.mp h).2.1).1 ?_
    rw [← hname]
    exact List.mem_map_of_mem hother
  rw [List.flatMap_append, List.flatMap_cons, hearlier, hlater, List.nil_append, List.append_nil]

/-- **The rules of a document are the stored rules and the letter rules that are left.** -/
lemma documentRules_perm (h : lexer.HasDistinctModes)
    (hdefault : defaultMode ∈ lexer.modes.map Mode.name) :
    lexer.documentRules.Perm (lexer.rules ++ lexer.letterRules) := by
  rcases List.mem_map.mp hdefault with ⟨found, hfound, hname⟩
  have hshown : lexer.shownRules = fun other =>
      other.rules ++ if other.name = defaultMode then lexer.letterRules else [] := by
    funext other
    rw [shownRules]
    split
    · rfl
    · exact (List.append_nil _).symm
  have hletters : (lexer.modes.flatMap fun other =>
      if other.name = defaultMode then lexer.letterRules else []) = lexer.letterRules := by
    rw [h.flatMap_eq hfound fun other _ hother => if_neg (hname ▸ hother), if_pos hname]
  rw [documentRules_eq, hshown]
  refine (List.flatMap_append_perm _ _ _).symm.trans ?_
  rw [hletters, rules]

/-! ## The headers -/

lemma mem_shownModes {found : Mode} (hfound : found ∈ lexer.modes) (hrule : rule ∈ found.rules) :
    found ∈ lexer.shownModes := by
  refine List.mem_filter.mpr ⟨hfound, ?_⟩
  rw [Bool.or_eq_true, Bool.not_eq_true']
  exact .inr (List.isEmpty_eq_false_iff.mpr (List.ne_nil_of_mem hrule))

/-- **A mode with a rule has a header,** unless it is the default mode. -/
lemma declaresMode_of_mem_rulesIn (hrule : rule ∈ lexer.rulesIn mode) (hmode : mode ≠ defaultMode) :
    DeclaresMode lexer.document mode := by
  rcases mem_mode_of_mem_rulesIn hrule with ⟨found, hfound, rfl, hmem⟩
  rcases List.append_of_mem (mem_shownModes hfound hmem) with ⟨earlier, later, hshown⟩
  have hsection : modeSection lexer found = "\n" ++ ("mode " ++ found.name ++ ";\n")
      ++ String.join ((lexer.shownRules found).map fun rule => rule.text ++ "\n") := by
    rw [modeSection, if_neg hmode]
  have hdocument : lexer.document = "lexer grammar " ++ lexer.name ++ ";\n"
      ++ String.join (lexer.shownModes.map lexer.modeSection) := rfl
  rw [DeclaresMode, hdocument, hshown, List.map_append, List.map_cons, String.join_append,
    String.join_cons, hsection]
  refine ⟨("lexer grammar " ++ lexer.name ++ ";\n"
      ++ String.join (earlier.map lexer.modeSection)).toList,
    (String.join ((lexer.shownRules found).map fun rule => rule.text ++ "\n")
      ++ String.join (later.map lexer.modeSection)).toList, ?_⟩
  rw [← String.toList_append, ← String.toList_append]
  simp only [String.append_assoc]

end Document

end LexerGrammar

end GrammarConversion.Antlr
