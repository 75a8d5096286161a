import Mathlib
import GrammarConversion.Proofs.LiteralBody
import GrammarConversion.Text.LetterCase

/-!
# Letters in either case

Where case does not matter, a letter of the basic Latin alphabet stands for both its forms, and any
other character for itself only.

* `IsCaseOf`: a character is another one, or the same letter in the other case.
* `isCaseOf_iff_toUpper_eq`: this holds of two characters exactly if their capitals are equal.
* `escapeChar_of_isLetter`: letters are never escaped.
-/

namespace GrammarConversion.Reading

open Antlr

/-- The other case of a letter. -/
def otherCase (c : Char) : Char :=
  if c.isLower then c.toUpper else c.toLower

/-- **Whether a character equals another one or is the other case of the same letter.** -/
def IsCaseOf (c d : Char) : Prop :=
  d = c ∨ isLetter c = true ∧ d = otherCase c

section Letters

variable {c d : Char} {cs ds : List Char}

/-! ## Letters -/

lemma isLetter_eq_isAlpha (c : Char) : isLetter c = c.isAlpha := by
  simp [isLetter, Char.isAlpha, Char.isUpper, Char.isLower, Char.le_def, Bool.or_comm]

lemma isLetter_iff : isLetter c = true ↔ c.isUpper = true ∨ c.isLower = true := by
  rw [isLetter_eq_isAlpha, Char.isAlpha, Bool.or_eq_true]

@[simp]
lemma isLetter_toUpper (c : Char) : isLetter c.toUpper = isLetter c := by
  rw [isLetter_eq_isAlpha, isLetter_eq_isAlpha, Char.isAlpha_toUpper_eq_isAlpha]

@[simp]
lemma isLetter_toLower (c : Char) : isLetter c.toLower = isLetter c := by
  rw [isLetter_eq_isAlpha, isLetter_eq_isAlpha, Char.isAlpha_toLower_eq_isAlpha]

lemma toUpper_of_not_isLetter (h : isLetter c = false) : c.toUpper = c := by
  refine Char.toUpper_eq_of_not_isLower fun hlower => ?_
  rw [isLetter_iff.mpr (.inr hlower)] at h
  exact Bool.noConfusion h

lemma toUpper_of_isUpper (h : c.isUpper = true) : c.toUpper = c :=
  Char.toUpper_eq_of_not_isLower (Char.not_isLower_of_isUpper h)

lemma toLower_of_isLower (h : c.isLower = true) : c.toLower = c :=
  Char.toLower_eq_of_not_isUpper (Char.not_isUpper_of_isLower h)

lemma otherCase_of_isLower (h : c.isLower = true) : otherCase c = c.toUpper :=
  if_pos h

lemma otherCase_of_isUpper (h : c.isUpper = true) : otherCase c = c.toLower :=
  if_neg (Char.not_isLower_of_isUpper h)

/-- The codes of small letters. -/
lemma isLower_iff_toNat : c.isLower = true ↔ 97 ≤ c.toNat ∧ c.toNat ≤ 122 := by
  simp [Char.isLower, UInt32.le_iff_toNat_le]

/-- The codes of capital letters. -/
lemma isUpper_iff_toNat : c.isUpper = true ↔ 65 ≤ c.toNat ∧ c.toNat ≤ 90 := by
  simp [Char.isUpper, UInt32.le_iff_toNat_le]

lemma isLetter_iff_toNat : isLetter c = true ↔
    65 ≤ c.toNat ∧ c.toNat ≤ 90 ∨ 97 ≤ c.toNat ∧ c.toNat ≤ 122 := by
  rw [isLetter_iff, isUpper_iff_toNat, isLower_iff_toNat]

@[simp]
lemma isLetter_otherCase (c : Char) : isLetter (otherCase c) = isLetter c := by
  rw [otherCase]
  split
  · exact isLetter_toUpper c
  · exact isLetter_toLower c

/-- **The codes of a letter and of its other case,** which are always as far apart. -/
lemma otherCase_codes (h : isLetter c = true) :
    65 ≤ c.toNat ∧ c.toNat ≤ 90 ∧ (otherCase c).toNat = c.toNat + 32 ∨
      97 ≤ c.toNat ∧ c.toNat ≤ 122 ∧ (otherCase c).toNat + 32 = c.toNat := by
  rcases isLetter_iff.mp h with hupper | hlower
  · have hcode := isUpper_iff_toNat.mp hupper
    have hvalid : (c.toNat + 32).isValidChar := .inl (by omega)
    refine .inl ⟨hcode.1, hcode.2, ?_⟩
    rw [otherCase_of_isUpper hupper, Char.toLower_eq_of_isUpper hupper, Char.toNat_ofNat,
      if_pos hvalid]
  · have hcode := isLower_iff_toNat.mp hlower
    have hvalid : (c.toNat - 32).isValidChar := .inl (by omega)
    refine .inr ⟨hcode.1, hcode.2, ?_⟩
    rw [otherCase_of_isLower hlower, Char.toUpper_eq_of_isLower hlower, Char.toNat_ofNat,
      if_pos hvalid]
    omega

/-- No letter is escaped. -/
lemma escapeChar_of_isLetter (context : EscapeContext) (h : isLetter c = true) :
    escapeChar context c = [c] := by
  cases context with
  | literal => exact of_isLetter (fun c => escapeChar .literal c = [c]) (by decide) h
  | charSet => exact of_isLetter (fun c => escapeChar .charSet c = [c]) (by decide) h

/-- The lower case of a letter in the full mapping is that of the basic letters. -/
lemma toList_lower_of_isLetter {text : String} (htext : text.toList = [c])
    (h : isLetter c = true) : (Text.lower text).toList = [c.toLower] := by
  have hlower : Text.lowerChar c = [c.toLower] :=
    of_isLetter (fun c => Text.lowerChar c = [c.toLower]) (by decide) h
  have hsigma : c ≠ 'Σ' := by
    rintro rfl
    exact absurd h (by decide)
  simp [Text.lower, htext, Text.lowerAfter, hsigma, hlower]

lemma toList_upper_of_isLetter {text : String} (htext : text.toList = [c])
    (h : isLetter c = true) : (Text.upper text).toList = [c.toUpper] := by
  have hupper : Text.upperChar c = [c.toUpper] :=
    of_isLetter (fun c => Text.upperChar c = [c.toUpper]) (by decide) h
  simp [Text.upper, htext, hupper]

/-! ## Characters in either case -/

lemma isCaseOf_refl (c : Char) : IsCaseOf c c :=
  .inl rfl

lemma isCaseOf_iff_of_not_isLetter (h : isLetter c = false) : IsCaseOf c d ↔ d = c := by
  simp [IsCaseOf, h]

/-- A letter has two cases, the small one and the capital one. -/
lemma isCaseOf_iff_of_isLetter (h : isLetter c = true) :
    IsCaseOf c d ↔ d = c.toLower ∨ d = c.toUpper := by
  rw [IsCaseOf, h, eq_self, true_and]
  rcases isLetter_iff.mp h with hupper | hlower
  · rw [otherCase_of_isUpper hupper, toUpper_of_isUpper hupper, or_comm]
  · rw [otherCase_of_isLower hlower, toLower_of_isLower hlower]

/-- **Characters are alike up to case** if they have the same capital. -/
lemma isCaseOf_iff_toUpper_eq : IsCaseOf c d ↔ c.toUpper = d.toUpper := by
  cases hc : isLetter c with
  | false =>
      rw [isCaseOf_iff_of_not_isLetter hc, toUpper_of_not_isLetter hc]
      constructor
      · rintro rfl
        exact (toUpper_of_not_isLetter hc).symm
      · intro hsame
        have hd : isLetter d = false := by rw [← isLetter_toUpper, ← hsame, hc]
        rw [hsame, toUpper_of_not_isLetter hd]
  | true =>
      rw [isCaseOf_iff_of_isLetter hc]
      constructor
      · rintro (rfl | rfl)
        · exact (Char.toUpper_toLower_eq_toUpper c).symm
        · exact (Char.toUpper_toUpper_eq_toUpper c).symm
      · intro hsame
        have hd : isLetter d = true := by rw [← isLetter_toUpper, ← hsame, isLetter_toUpper, hc]
        rw [← Char.toLower_toUpper_eq_toLower, hsame, Char.toLower_toUpper_eq_toLower]
        exact (isCaseOf_iff_of_isLetter hd).mp (isCaseOf_refl d)

/-- Texts differ in case only if they are the same in capitals. -/
lemma forall₂_isCaseOf_iff :
    List.Forall₂ IsCaseOf cs ds ↔ cs.map Char.toUpper = ds.map Char.toUpper := by
  have hcapitals : IsCaseOf = fun c d => c.toUpper = d.toUpper := by
    funext c d
    exact propext isCaseOf_iff_toUpper_eq
  rw [hcapitals, ← List.forall₂_eq_eq_eq, List.forall₂_map_left_iff, List.forall₂_map_right_iff]

end Letters

end GrammarConversion.Reading
