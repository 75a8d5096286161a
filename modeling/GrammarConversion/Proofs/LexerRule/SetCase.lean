import Mathlib
import GrammarConversion.Proofs.LexerRule.EitherCase
import GrammarConversion.Proofs.LexerRule.Reading

/-!
# Character lists that match in either case

Where case does not matter, a letter of a character list is written in both cases, and a range
between two letters of one case is followed by the range between the same letters in the other
case.  Every other range is written as it stands, even if letters lie in it.

`ShowsRanges` says of a piece of a set which ranges it is read as.  These need not be the ranges of
the descriptor that it is written for: a capital alone is written after its small letter.  So they
are compared by the characters that lie in them (`exists_descriptorText`).

**`charList_ignoringCase`: the set for a list holds the characters of the list, and the letters that
lie in its letter ranges in the other case;** for a negated list it holds all others.  Such a set is
not closed under case where letters lie in a range with other ends
(`not_closesUnderCase_digitToCapital`).
-/

namespace GrammarConversion.Reading

open Antlr

/-- **Whether the ends of a range are letters of one case.**  The range of a single character has it
at both ends. -/
def isLetterRange (range : Char × Char) : Bool :=
  range.1.isLower && range.2.isLower || range.1.isUpper && range.2.isUpper

/-- **Whether a character lies in some ranges in either case,** where only the ranges between
letters of one case are taken in the other case. -/
def LiesInEitherCase (ranges : List (Char × Char)) (c : Char) : Prop :=
  LiesIn ranges c ∨ isLetter c = true ∧ LiesIn (ranges.filter isLetterRange) (otherCase c)

/-- **The ranges that a piece of a set is read as,** whatever comes after it, so long as no range
goes on there.  The piece goes on with no range either. -/
def ShowsRanges (piece : List Char) (ranges : List (Char × Char)) : Prop :=
  ∀ rest, rest.head? ≠ some '-' → (piece ++ rest).head? ≠ some '-' ∧
    readRanges (piece ++ rest) = (readRanges rest).map fun read => (ranges ++ read.1, read.2)

section Ranges

variable {c d first last : Char} {ranges ranges' : List (Char × Char)} {piece piece' : List Char}

/-! ## Pieces of a set -/

lemma showsRanges_nil : ShowsRanges [] [] := by
  intro rest hrest
  exact ⟨hrest, by simp⟩

lemma ShowsRanges.append (h : ShowsRanges piece ranges) (h' : ShowsRanges piece' ranges') :
    ShowsRanges (piece ++ piece') (ranges ++ ranges') := by
  intro rest hrest
  rcases h' rest hrest with ⟨hhead, hread⟩
  rw [List.append_assoc, (h _ hhead).2, hread]
  exact ⟨(h _ hhead).1, by simp [Function.comp_def]⟩

lemma showsRanges_character (c : Char) : ShowsRanges (escapeChar .charSet c) [(c, c)] := by
  intro rest hrest
  exact ⟨head?_escapeChar_ne rfl c rest, readRanges_character c hrest⟩

lemma showsRanges_range (first last : Char) :
    ShowsRanges (escapeChar .charSet first ++ '-' :: escapeChar .charSet last) [(first, last)] := by
  intro rest _
  rw [List.append_assoc, List.cons_append]
  exact ⟨head?_escapeChar_ne rfl first _, readRanges_range first last rest⟩

/-- A letter is a piece of a set by itself. -/
lemma showsRanges_letter (h : isLetter c = true) : ShowsRanges [c] [(c, c)] := by
  have hshows := showsRanges_character c
  rwa [escapeChar_of_isLetter .charSet h] at hshows

lemma showsRanges_letters (hfirst : isLetter first = true) (hlast : isLetter last = true) :
    ShowsRanges [first, '-', last] [(first, last)] := by
  have hshows := showsRanges_range first last
  rwa [escapeChar_of_isLetter .charSet hfirst, escapeChar_of_isLetter .charSet hlast] at hshows

/-- A piece is read up to the bracket that ends the set. -/
lemma ShowsRanges.readRanges_eq (h : ShowsRanges piece ranges) (rest : List Char) :
    readRanges (piece ++ ']' :: rest) = some (ranges, rest) := by
  have hend : readRanges (']' :: rest) = some ([], rest) := by
    rw [readRanges]
    rfl
  rw [(h _ (by simp)).2, hend, Option.map_some, List.append_nil]

/-! ## Characters in ranges -/

lemma not_liesIn_nil : ¬LiesIn [] c := by
  simp [LiesIn]

lemma liesIn_append : LiesIn (ranges ++ ranges') c ↔ LiesIn ranges c ∨ LiesIn ranges' c := by
  simp only [LiesIn, List.mem_append, or_and_right, exists_or]

lemma liesIn_singleton : LiesIn [(first, last)] c ↔ first ≤ c ∧ c ≤ last := by
  simp [LiesIn]

lemma liesIn_character : LiesIn [(d, d)] c ↔ c = d := by
  rw [liesIn_singleton]
  constructor
  · rintro ⟨hge, hle⟩
    exact Char.le_antisymm hle hge
  · rintro rfl
    exact ⟨Char.le_refl c, Char.le_refl c⟩

/-- The codes of the characters in a range. -/
lemma liesIn_singleton_toNat :
    LiesIn [(first, last)] c ↔ first.toNat ≤ c.toNat ∧ c.toNat ≤ last.toNat :=
  liesIn_singleton

lemma liesInEitherCase_append : LiesInEitherCase (ranges ++ ranges') c ↔
    LiesInEitherCase ranges c ∨ LiesInEitherCase ranges' c := by
  simp only [LiesInEitherCase, List.filter_append, liesIn_append]
  tauto

/-- A range with other ends is not taken in the other case. -/
lemma liesInEitherCase_of_not_isLetterRange {range : Char × Char}
    (h : isLetterRange range = false) : LiesInEitherCase [range] c ↔ LiesIn [range] c := by
  simp [LiesInEitherCase, h, not_liesIn_nil]

lemma liesInEitherCase_of_isLetterRange {range : Char × Char} (h : isLetterRange range = true) :
    LiesInEitherCase [range] c
      ↔ LiesIn [range] c ∨ isLetter c = true ∧ LiesIn [range] (otherCase c) := by
  simp [LiesInEitherCase, h]

lemma isLetterRange_iff : isLetterRange (first, last) = true ↔
    first.isLower = true ∧ last.isLower = true ∨ first.isUpper = true ∧ last.isUpper = true := by
  simp [isLetterRange]

lemma isLetter_of_isLetterRange (h : isLetterRange (first, last) = true) :
    isLetter first = true ∧ isLetter last = true := by
  rcases isLetterRange_iff.mp h with ⟨hfirst, hlast⟩ | ⟨hfirst, hlast⟩
  · exact ⟨isLetter_iff.mpr (.inr hfirst), isLetter_iff.mpr (.inr hlast)⟩
  · exact ⟨isLetter_iff.mpr (.inl hfirst), isLetter_iff.mpr (.inl hlast)⟩

/-- **A range between letters of one case,** in the other case, is that between the other cases of
its ends. -/
lemma liesInEitherCase_letterRange (h : isLetterRange (first, last) = true) :
    LiesInEitherCase [(first, last)] c ↔
      LiesIn ([(first, last)] ++ [(otherCase first, otherCase last)]) c := by
  have hsame := isLetterRange_iff.mp h
  rw [isLower_iff_toNat, isLower_iff_toNat, isUpper_iff_toNat, isUpper_iff_toNat] at hsame
  have hfirst := otherCase_codes (isLetter_of_isLetterRange h).1
  have hlast := otherCase_codes (isLetter_of_isLetterRange h).2
  have hmirrored : isLetter c = true ∧ LiesIn [(first, last)] (otherCase c)
      ↔ LiesIn [(otherCase first, otherCase last)] c := by
    rw [liesIn_singleton_toNat, liesIn_singleton_toNat]
    constructor
    · rintro ⟨hletter, hge, hle⟩
      have hc := otherCase_codes hletter
      omega
    · rintro ⟨hge, hle⟩
      -- all that lies between two letters of one case is a letter
      have hletter : isLetter c = true := isLetter_iff_toNat.mpr (by omega)
      have hc := otherCase_codes hletter
      exact ⟨hletter, by omega⟩
  rw [liesInEitherCase_of_isLetterRange h, liesIn_append, hmirrored]

/-- **A letter alone** in either case is its small letter or its capital. -/
lemma liesInEitherCase_letter (h : isLetter d = true) :
    LiesInEitherCase [(d, d)] c ↔
      LiesIn ([(d.toLower, d.toLower)] ++ [(d.toUpper, d.toUpper)]) c := by
  rcases isLetter_iff.mp h with hupper | hlower
  · rw [liesInEitherCase_letterRange (isLetterRange_iff.mpr (.inr ⟨hupper, hupper⟩)), liesIn_append,
      liesIn_append, otherCase_of_isUpper hupper, toUpper_of_isUpper hupper, or_comm]
  · rw [liesInEitherCase_letterRange (isLetterRange_iff.mpr (.inl ⟨hlower, hlower⟩)),
      otherCase_of_isLower hlower, toLower_of_isLower hlower]

end Ranges

end GrammarConversion.Reading

namespace GrammarConversion.Conversion

open Antlr
open Model
open Reading

section Descriptors

variable (rule : Option String) {descriptor : Regex} {descriptors : List Regex}
  {range : Char × Char} {text : String} {first last c : Char}

/-! ## Descriptors -/

/-- **Whether a text is what a descriptor is written as** where case does not matter, and is read as
ranges of the characters that lie in `range` in either case. -/
structure WritesInEitherCase (descriptor : Regex) (range : Char × Char) (text : String) :
    Prop where
  body_eq : lexerBody ⟨some true, rule⟩ descriptor = .ok text
  read : ∃ ranges, ShowsRanges text.toList ranges ∧
    ∀ c, LiesIn ranges c ↔ LiesInEitherCase [range] c

lemma exists_characterText {char : String} (hchar : char.toList = [c]) :
    ∃ text, WritesInEitherCase rule (.character char) (c, c) text := by
  refine ⟨characterText true char, by rw [lexerBody]; rfl, ?_⟩
  have hamong : liesAmongLetters char = isLetter c := by
    rw [liesAmongLetters, hchar]
  rw [characterText, Bool.true_and, hamong, toList_escape]
  cases hletter : isLetter c with
  | false =>
      have hrange : isLetterRange (c, c) = false := by
        have hcases : c.isUpper = false ∧ c.isLower = false := by
          simpa [isLetter_eq_isAlpha, Char.isAlpha] using hletter
        simp [isLetterRange, hcases]
      refine ⟨[(c, c)], ?_, fun d => (liesInEitherCase_of_not_isLetterRange hrange).symm⟩
      rw [if_neg (by simp), hchar, escapeChars_cons, escapeChars_nil, List.append_nil]
      exact showsRanges_character c
  | true =>
      refine ⟨[(c.toLower, c.toLower)] ++ [(c.toUpper, c.toUpper)], ?_,
        fun d => (liesInEitherCase_letter hletter).symm⟩
      rw [if_pos rfl, String.toList_append, toList_lower_of_isLetter hchar hletter,
        toList_upper_of_isLetter hchar hletter, List.singleton_append, escapeChars_cons,
        escapeChars_cons, escapeChars_nil, List.append_nil]
      exact (showsRanges_character _).append (showsRanges_character _)

lemma otherCaseRange_eq (first last : Char) :
    otherCaseRange first last = if isLetterRange (first, last) then
      String.ofList [otherCase first, '-', otherCase last] else "" := by
  rw [otherCaseRange, isLetterRange]
  cases hsmall : first.isLower && last.isLower with
  | true =>
      rw [Bool.and_eq_true] at hsmall
      rw [otherCase_of_isLower hsmall.1, otherCase_of_isLower hsmall.2]
      rfl
  | false =>
      cases hcapital : first.isUpper && last.isUpper with
      | true =>
          rw [Bool.and_eq_true] at hcapital
          rw [otherCase_of_isUpper hcapital.1, otherCase_of_isUpper hcapital.2]
          rfl
      | false => rfl

/-- The range that is written after a range adds what lies in it in the other case. -/
lemma exists_otherCaseRange (first last : Char) :
    ∃ ranges, ShowsRanges (otherCaseRange first last).toList ranges ∧
      ∀ c, LiesIn ([(first, last)] ++ ranges) c ↔ LiesInEitherCase [(first, last)] c := by
  rw [otherCaseRange_eq]
  cases hletters : isLetterRange (first, last) with
  | true =>
      rcases isLetter_of_isLetterRange hletters with ⟨hfirst, hlast⟩
      refine ⟨[(otherCase first, otherCase last)], ?_,
        fun c => (liesInEitherCase_letterRange hletters).symm⟩
      rw [if_pos rfl, String.toList_ofList]
      exact showsRanges_letters (by simp [hfirst]) (by simp [hlast])
  | false =>
      exact ⟨[], showsRanges_nil, fun c => (liesInEitherCase_of_not_isLetterRange hletters).symm⟩

lemma exists_rangeText {left right : String} (hfirst : left.toList = [first])
    (hlast : right.toList = [last]) :
    ∃ text, WritesInEitherCase rule (.range left right) (first, last) text := by
  rcases exists_otherCaseRange first last with ⟨ranges, hother, hlies⟩
  refine ⟨String.ofList (escapeChar .charSet first ++ '-' :: escapeChar .charSet last)
    ++ otherCaseRange first last, ?_, [(first, last)] ++ ranges, ?_, hlies⟩
  · rw [lexerBody, rangeText, hfirst, hlast]
    rfl
  · rw [String.toList_append, String.toList_ofList]
    exact (showsRanges_range first last).append hother

/-- **Every descriptor with single characters at its ends is written.** -/
lemma exists_descriptorText (h : descriptor.range? = some range) :
    ∃ text, WritesInEitherCase rule descriptor range text := by
  cases descriptor with
  | character char =>
      rcases Regex.of_range?_character h with ⟨c, hc, rfl⟩
      exact exists_characterText rule hc
  | range left right =>
      rcases Regex.of_range?_range h with ⟨first, last, hfirst, hlast, rfl⟩
      exact exists_rangeText rule hfirst hlast
  | _ => exact absurd h (by simp [Regex.range?])

/-! ## Lists of descriptors -/

/-- **The descriptors of a list are written** one after another. -/
lemma exists_eitherCaseTexts
    (hall : ∀ descriptor ∈ descriptors, ∃ range, descriptor.range? = some range) :
    ∃ texts ranges, lexerBodies ⟨some true, rule⟩ descriptors = .ok texts ∧
      ShowsRanges (String.join texts).toList ranges ∧
      ∀ c, LiesIn ranges c ↔ LiesInEitherCase (Regex.ranges descriptors) c := by
  induction descriptors with
  | nil =>
      refine ⟨[], [], rfl, showsRanges_nil, fun c => ?_⟩
      simp [LiesInEitherCase, Regex.ranges, not_liesIn_nil]
  | cons descriptor descriptors ih =>
      rcases List.forall_mem_cons.mp hall with ⟨⟨range, hrange⟩, hothers⟩
      rcases exists_descriptorText rule hrange with ⟨text, htext, ranges, hshows, hlies⟩
      rcases ih hothers with ⟨texts, ranges', htexts, hshows', hlies'⟩
      refine ⟨text :: texts, ranges ++ ranges', ?_, ?_, fun c => ?_⟩
      · rw [lexerBodies, htext, htexts]
        rfl
      · rw [String.join_cons, String.toList_append]
        exact hshows.append hshows'
      · have hcons : Regex.ranges (descriptor :: descriptors)
            = [range] ++ Regex.ranges descriptors := Regex.ranges_cons hrange descriptors
        rw [hcons, liesInEitherCase_append, liesIn_append, hlies, hlies']

/-- **The set for a list** holds the characters that lie in its ranges in either case. -/
lemma exists_eitherCaseSet (negated : Option Bool) (hne : descriptors ≠ [])
    (hall : ∀ descriptor ∈ descriptors, ∃ range, descriptor.range? = some range) :
    ∃ text, lexerBody ⟨some true, rule⟩ (.charList descriptors negated) = .ok text ∧
      ∀ rules, Denotes readAtom (LexerAtom.language rules) text (oneOf fun c =>
        if negated.getD false then ¬LiesInEitherCase (Regex.ranges descriptors) c
        else LiesInEitherCase (Regex.ranges descriptors) c) := by
  rcases exists_eitherCaseTexts rule hall with ⟨texts, ranges, htexts, hshows, hlies⟩
  refine ⟨setText (negated.getD false) texts, ?_, fun rules => ?_⟩
  · rw [lexerBody, if_neg (by simp [hne]), checkDescriptors_ok _ hall, htexts]
    rfl
  · have hset := shows_setText (negated.getD false) hshows.readRanges_eq
    have hdenotes := hset.denotes_atom (LexerAtom.language rules)
    have hsame : LiesIn ranges = LiesInEitherCase (Regex.ranges descriptors) :=
      funext fun c => propext (hlies c)
    rw [← hsame]
    cases hnegated : negated.getD false with
    | false =>
        rw [hnegated] at hdenotes
        exact hdenotes
    | true =>
        rw [hnegated] at hdenotes
        exact hdenotes

/-- **A character list that matches in either case.**  The set for it holds what the set for the
list itself holds, and the letters whose other case is one of its characters or lies in one of its
ranges between letters of one case.  The set for a negated list holds all other characters. -/
theorem charList_ignoringCase (negated : Option Bool) (hne : descriptors ≠ [])
    (hall : ∀ descriptor ∈ descriptors, ∃ range, descriptor.range? = some range) :
    ∃ plain text,
      lexerBody ⟨some false, rule⟩ (.charList descriptors none) = .ok plain ∧
      lexerBody ⟨some true, rule⟩ (.charList descriptors negated) = .ok text ∧
      ∀ rules,
        Denotes readAtom (LexerAtom.language rules) plain
          (oneOf (LiesIn (Regex.ranges descriptors))) ∧
        Denotes readAtom (LexerAtom.language rules) text (oneOf fun c =>
          if negated.getD false then ¬LiesInEitherCase (Regex.ranges descriptors) c
          else LiesInEitherCase (Regex.ranges descriptors) c) := by
  rcases exists_setText rule none hall with ⟨plain, hplain, hshows⟩
  rcases exists_eitherCaseSet rule negated hne hall with ⟨text, htext, hdenotes⟩
  exact ⟨plain, text, hplain, htext,
    fun rules => ⟨hshows.denotes_atom (LexerAtom.language rules), hdenotes rules⟩⟩

end Descriptors

/-- Small letters, a capital and the digits. -/
def sampleDescriptors : List Regex :=
  [.range "a" "f", .character "Z", .range "0" "9"]

lemma exists_range?_sampleDescriptors :
    ∀ descriptor ∈ sampleDescriptors, ∃ range, descriptor.range? = some range := by
  intro descriptor hdescriptor
  fin_cases hdescriptor
  · exact ⟨('a', 'f'), rfl⟩
  · exact ⟨('Z', 'Z'), rfl⟩
  · exact ⟨('0', '9'), rfl⟩

/-- Letters are taken in both cases, digits as they are. -/
theorem charList_ignoringCase_sampleDescriptors :
    Denotes readAtom (LexerAtom.language sampleRules) "~[a-fA-FzZ0-9]" (oneOf fun c =>
      ¬LiesInEitherCase [('a', 'f'), ('Z', 'Z'), ('0', '9')] c) := by
  rcases charList_ignoringCase none (some true) (List.cons_ne_nil _ _)
    exists_range?_sampleDescriptors with ⟨plain, text, -, htext, hdenotes⟩
  have hwritten : text = "~[a-fA-FzZ0-9]" := Except.ok.inj (htext.symm.trans (by cbv))
  rw [hwritten] at hdenotes
  exact (hdenotes sampleRules).2

/-- **Whether the set for a list in either case is closed under case:** it holds the characters of
the list and the letters whose other case is one of them, and no others. -/
def ClosesUnderCase (descriptors : List Regex) : Prop :=
  ∃ text, lexerBody ⟨some true, none⟩ (.charList descriptors none) = .ok text ∧
    ∀ rules, Denotes readAtom (LexerAtom.language rules) text (oneOf fun c =>
      LiesIn (Regex.ranges descriptors) c ∨
        isLetter c = true ∧ LiesIn (Regex.ranges descriptors) (otherCase c))

/-- **A range from a digit to a capital is not closed under case:** it has capitals in it, but is
written as it stands. -/
theorem not_closesUnderCase_digitToCapital : ¬ClosesUnderCase [.range "0" "Z"] := by
  rintro ⟨text, htext, hclosed⟩
  have hall : ∀ descriptor ∈ [Regex.range "0" "Z"], ∃ range, descriptor.range? = some range := by
    simp [Regex.range?]
  rcases exists_eitherCaseSet none none (List.cons_ne_nil _ _) hall with ⟨text', htext', hset⟩
  obtain rfl : text = text' := Except.ok.inj (htext.symm.trans htext')
  have hsame := (hclosed sampleRules).unique (hset sampleRules)
  have hmem : ['a'] ∈ oneOf fun c => LiesIn (Regex.ranges [.range "0" "Z"]) c ∨
      isLetter c = true ∧ LiesIn (Regex.ranges [.range "0" "Z"]) (otherCase c) :=
    ⟨'a', rfl, .inr ⟨rfl, ('0', 'Z'), List.mem_singleton.mpr rfl, by decide⟩⟩
  rw [hsame] at hmem
  rcases hmem with ⟨c, hc, hlies⟩
  obtain rfl : 'a' = c := List.singleton_inj.mp hc
  rcases hlies with ⟨range, hrange, hends⟩ | ⟨-, range, hrange, -⟩
  · obtain rfl : range = ('0', 'Z') := List.mem_singleton.mp hrange
    exact absurd hends (by decide)
  · exact absurd hrange (by simp [Regex.ranges, Regex.range?, isLetterRange])

end GrammarConversion.Conversion
