import Mathlib.Data.List.SplitBy
import Mathlib.Tactic.Lemma
import GrammarConversion.Antlr.LexerGrammar
import GrammarConversion.Proofs.Reading.Scan

/-!
# Bodies of literals and names of rules

The body of a rule for a literal shows a quote or a space, and a name shows neither.  There is one
exception: where case does not matter the body for a single letter is the name of the letter's rule.

**`literalBody_of_isBare`: there is no other exception,** but for the empty literal, whose body is
empty where case does not matter.
-/

namespace GrammarConversion.Antlr

open Reading

/-- A text that shows neither quotes nor spaces. -/
def IsBare (text : String) : Prop :=
  '\'' ∉ text.toList ∧ ' ' ∉ text.toList

instance (text : String) : Decidable (IsBare text) :=
  inferInstanceAs (Decidable (_ ∧ _))

/-- A literal of one letter, or of nothing. -/
def IsLetterAtMost (image : String) : Prop :=
  image.toList.length ≤ 1 ∧ ∀ c ∈ image.toList, isLetter c = true

instance (image : String) : Decidable (IsLetterAtMost image) :=
  inferInstanceAs (Decidable (_ ∧ _))

/-- A text in capitals; for a literal of one letter that is the name of the letter's rule. -/
def capitals (text : String) : String :=
  String.ofList (text.toList.map Char.toUpper)

/-! ## Bare texts -/

lemma IsBare.of_isName {name : String} (h : IsName name) : IsBare name :=
  ⟨fun hc => absurd (h.2 _ hc) (by decide), fun hc => absurd (h.2 _ hc) (by decide)⟩

lemma IsBare.append {first second : String} (h : IsBare first) (h' : IsBare second) :
    IsBare (first ++ second) := by
  rw [IsBare, String.toList_append, List.mem_append, List.mem_append, not_or, not_or]
  exact ⟨⟨h.1, h'.1⟩, h.2, h'.2⟩

lemma IsBare.ruleName {name : String} (h : IsBare name) : IsBare (ruleName name) := by
  rw [Antlr.ruleName]
  split
  · have hstem : IsBare reservedStem := by decide
    exact hstem.append h
  · exact h

/-! ## Bodies that are bare -/

lemma quote_mem_verbatim (text : String) : '\'' ∈ (LiteralPart.verbatim text).body.toList := by
  simp [LiteralPart.body]

lemma space_mem_intercalate (first second : String) (others : List String) :
    ' ' ∈ (" ".intercalate (first :: second :: others)).toList := by
  rw [String.intercalate_cons_cons]
  simp

/-- A run that is written without quotes and spaces is a single letter. -/
lemma ofRun_of_isBare {run : List Char} (h : IsBare (LiteralPart.ofRun run).body) :
    ∃ c, run = [c] ∧ isLetter c = true := by
  rw [LiteralPart.ofRun] at h
  split at h
  · rename_i hany
    cases run with
    | nil => simp at hany
    | cons c others =>
        cases others with
        | nil => exact ⟨c, rfl, by simpa using hany⟩
        | cons d others =>
            have hspace : ' ' ∈
                (LiteralPart.letters (String.ofList (c :: d :: others))).body.toList := by
              rw [LiteralPart.body, String.toList_ofList, List.map_cons, List.map_cons]
              exact space_mem_intercalate _ _ _
            exact absurd hspace h.2
  · exact absurd (quote_mem_verbatim _) h.1

/-- Where case does not matter, a letter is matched by its letter rule. -/
lemma literalBody_of_isLetterAtMost {image : String} (h : IsLetterAtMost image) :
    literalBody true image = capitals image := by
  rw [literalBody, if_pos rfl, caseParts, List.map_map, capitals]
  match hchars : image.toList, h with
  | [], _ => rfl
  | [c], h =>
      have hletter : isLetter c = true := h.2 c (by simp [hchars])
      have hrun : [c].splitBy (fun a b => isLetter a == isLetter b) = [[c]] := rfl
      rw [hrun, List.map_singleton, String.intercalate_singleton, Function.comp,
        LiteralPart.ofRun, if_pos (by simpa using hletter)]
      simp [LiteralPart.body]
  | _ :: _ :: _, h =>
      have hle := h.1
      rw [hchars] at hle
      exact absurd hle (by simp)

/-- **A body of a literal without quotes and spaces** belongs to a letter in either case, or to
nothing. -/
lemma literalBody_of_isBare {ignoreCase : Bool} {image : String}
    (h : IsBare (literalBody ignoreCase image)) :
    ignoreCase = true ∧ IsLetterAtMost image ∧ literalBody ignoreCase image = capitals image := by
  cases ignoreCase with
  | false => exact absurd (quote_mem_verbatim image) h.1
  | true =>
      have hletter : IsLetterAtMost image := by
        have hflatten := List.flatten_splitBy (fun a b => isLetter a == isLetter b) image.toList
        rw [literalBody, if_pos rfl, caseParts, List.map_map] at h
        match hruns : image.toList.splitBy (fun a b => isLetter a == isLetter b) with
        | [] =>
            rw [hruns, List.flatten_nil] at hflatten
            simp [IsLetterAtMost, ← hflatten]
        | [run] =>
            rw [hruns, List.map_singleton, String.intercalate_singleton, Function.comp] at h
            rcases ofRun_of_isBare h with ⟨c, rfl, hc⟩
            rw [hruns, List.flatten_singleton] at hflatten
            simp [IsLetterAtMost, ← hflatten, hc]
        | first :: second :: others =>
            rw [hruns, List.map_cons, List.map_cons] at h
            exact absurd (space_mem_intercalate _ _ _) h.2
      exact ⟨rfl, hletter, literalBody_of_isLetterAtMost hletter⟩

/-! ## Letters -/

/-- What holds of the letters among the first 128 characters holds of all letters. -/
lemma of_isLetter {c : Char} (holds : Char → Prop)
    (hall : ∀ n < 128, isLetter (Char.ofNat n) = true → holds (Char.ofNat n))
    (h : isLetter c = true) : holds c := by
  have hlt : c.toNat < 128 := by
    simp only [isLetter, Bool.or_eq_true, Bool.and_eq_true, decide_eq_true_eq] at h
    rcases h with ⟨-, hle⟩ | ⟨-, hle⟩
    · exact Nat.lt_of_le_of_lt hle (by decide)
    · exact Nat.lt_of_le_of_lt hle (by decide)
  have hc := hall c.toNat hlt
  rw [Char.ofNat_toNat] at hc
  exact hc h

lemma toUpper_mem_of_isLetter {c : Char} (h : isLetter c = true) :
    c.toUpper ∈ "ABCDEFGHIJKLMNOPQRSTUVWXYZ".toList :=
  of_isLetter (fun c => c.toUpper ∈ "ABCDEFGHIJKLMNOPQRSTUVWXYZ".toList) (by decide) h

lemma underscore_notMem_capitals {image : String} (h : IsLetterAtMost image) :
    '_' ∉ (capitals image).toList := by
  rw [capitals, String.toList_ofList]
  intro hmem
  rcases List.mem_map.mp hmem with ⟨c, hc, hupper⟩
  have hletter := toUpper_mem_of_isLetter (h.2 c hc)
  rw [hupper] at hletter
  exact absurd hletter (by decide)

/-- **Every letter has a rule** to begin with. -/
lemma exists_letterRule {image : String} (hne : image ≠ "") (h : IsLetterAtMost image) :
    ∃ letter ∈ allLetterRules, letter.name = capitals image := by
  match hchars : image.toList, h with
  | [], _ => exact absurd (String.toList_inj.mp hchars) hne
  | [c], h =>
      have hletter : isLetter c = true := h.2 c (by simp [hchars])
      have hmem : letterRule c.toUpper ∈ allLetterRules :=
        List.mem_map_of_mem (toUpper_mem_of_isLetter hletter)
      refine ⟨letterRule c.toUpper, hmem, ?_⟩
      rw [capitals, hchars]
      rfl
  | _ :: _ :: _, h =>
      have hle := h.1
      rw [hchars] at hle
      exact absurd hle (by simp)

end GrammarConversion.Antlr
