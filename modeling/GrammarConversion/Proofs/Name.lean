import Mathlib.Tactic.Lemma
import GrammarConversion.Antlr.LexerGrammar

/-!
# Names of rules and of modes

The name of a rule is the name of its token, with a stem before it if that begins with an
underscore.  So it is at least as long, holds the same characters, and is its own rule name.

Different lexical states have different modes, unless a state has the name of the default mode.
-/

namespace GrammarConversion.Antlr

/-! ## Rules -/

lemma ruleName_of_head?_ne {name : String} (h : name.toList.head? ≠ some '_') :
    ruleName name = name :=
  if_neg h

/-- **The name of a rule is its own rule name.** -/
@[simp]
lemma ruleName_ruleName (name : String) : ruleName (ruleName name) = ruleName name := by
  refine ruleName_of_head?_ne ?_
  rw [ruleName]
  split
  · simp [reservedStem]
  · assumption

lemma suffix_toList_ruleName (name : String) : name.toList <:+ (ruleName name).toList := by
  rw [ruleName]
  split
  · rw [String.toList_append]
    exact List.suffix_append _ _
  · exact List.suffix_refl _

/-- The rule for a token in a state other than its canonical one is not named like what it refers
to, which is shorter. -/
lemma ruleName_prefixed_ne (state target : String) :
    ruleName (state ++ "_" ++ target) ≠ target := by
  intro h
  have hle := (suffix_toList_ruleName (state ++ "_" ++ target)).length_le
  rw [h] at hle
  simp at hle
  omega

lemma underscore_mem_ruleName (state target : String) :
    '_' ∈ (ruleName (state ++ "_" ++ target)).toList := by
  refine (suffix_toList_ruleName (state ++ "_" ++ target)).subset ?_
  simp

lemma prefixed_ne_empty (state target : String) : state ++ "_" ++ target ≠ "" := by
  intro h
  have hlist := congrArg String.toList h
  simp at hlist

/-! ## Letters -/

lemma letter_body_ne : ∀ letter ∈ allLetterRules, letter.body ≠ .text letter.name := by
  decide

lemma underscore_notMem_letter : ∀ letter ∈ allLetterRules, '_' ∉ letter.name.toList := by
  decide

lemma letter_commands : ∀ letter ∈ allLetterRules, letter.commands = [] := by
  decide

lemma nodup_letter_names : (allLetterRules.map Rule.name).Nodup := by
  decide

/-! ## Modes -/

/-- **Different states have different modes,** the name of the default mode apart. -/
lemma modeName_injective {first second : String} (hfirst : first ≠ defaultMode)
    (hsecond : second ≠ defaultMode) (h : modeName first = modeName second) : first = second := by
  rw [modeName, modeName] at h
  split at h <;> split at h
  · rw [‹first = defaultState›, ‹second = defaultState›]
  · exact absurd h.symm hsecond
  · exact absurd h hfirst
  · exact h

end GrammarConversion.Antlr
