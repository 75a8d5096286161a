import GrammarConversion.Antlr.Escape
import GrammarConversion.Proofs.Reading.Scan

/-!
# Atoms of lexer rules as ANTLR reads them

A lexer rule refers to other rules by name, and shows characters in quoted literals and in sets.
Both places know the escapes of the backslash and of the common controls, and characters by their
code points, with four hexadecimal digits or with any number of them in braces.  Besides, a literal
escapes the quote that would end it, and a set the bracket that would end it and the hyphen that
would make a range.

* `readChar`, `readLiteral`, `readRanges` and `readAtom` read such text, whoever has written it.
* **`readChar_escapeChar`: a character is read back from its escape,** in either place.
* `readLiteral_escapeChars` and `readRanges_cons` carry this over to literals and to sets.
-/

namespace GrammarConversion.Reading

open Antlr
open Text

/-! ## Numbers and characters -/

/-- The value of a hexadecimal digit. -/
def hexDigit? (c : Char) : Option Nat :=
  if '0' ≤ c ∧ c ≤ '9' then some (c.toNat - 48)
  else if 'A' ≤ c ∧ c ≤ 'F' then some (c.toNat - 55)
  else if 'a' ≤ c ∧ c ≤ 'f' then some (c.toNat - 87)
  else none

/-- The number written by hexadecimal digits after a number `start`. -/
def hexNumber? (start : Nat) : List Char → Option Nat
  | [] => some start
  | c :: cs => (hexDigit? c).bind fun digit => hexNumber? (16 * start + digit) cs

/-- The character with a code point, if there is one. -/
def charOf? (n : Nat) : Option Char :=
  if n.isValidChar then some (Char.ofNat n) else none

/-- The character written by some hexadecimal digits. -/
def hexChar? (digits : List Char) : Option Char :=
  (hexNumber? 0 digits).bind charOf?

/-- The character that a letter after a backslash stands for in either place. -/
def shortForm? (letter : Char) : Option Char :=
  if letter = '\\' then some '\\'
  else if letter = 'n' then some '\n'
  else if letter = 'r' then some '\r'
  else if letter = 't' then some '\t'
  else if letter = 'b' then some '\x08'
  else if letter = 'f' then some '\x0c'
  else none

/-- Whether a character has a meaning of its own in a place, and so stands for itself only after a
backslash. -/
def needsBackslash : EscapeContext → Char → Bool
  | .literal, c => c == '\''
  | .charSet, c => c == ']' || c == '-'

/-- Reads a character by its code point, after `\u`. -/
def readCodePoint : List Char → Option (Char × List Char)
  | '\x7b' :: cs =>
    match cs.dropWhile (· ≠ '\x7d') with
    | [] => none
    | _ :: rest => (hexChar? (cs.takeWhile (· ≠ '\x7d'))).map fun c => (c, rest)
  | cs => if 4 ≤ cs.length then (hexChar? (cs.take 4)).map fun c => (c, cs.drop 4) else none

/-- **Reads a character of a literal or of a set,** which does not go over the end of a line. -/
def readChar (context : EscapeContext) : List Char → Option (Char × List Char)
  | [] => none
  | '\\' :: [] => none
  | '\\' :: 'u' :: cs => readCodePoint cs
  | '\\' :: c :: cs =>
    match shortForm? c with
    | some meant => some (meant, cs)
    | none => if needsBackslash context c then some (c, cs) else none
  | c :: cs => if needsBackslash context c || c == '\n' || c == '\r' then none else some (c, cs)

/-! ## Atoms -/

/-- An atom of a lexer rule. -/
inductive LexerAtom where
  /-- The name of a rule. -/
  | name (name : String)
  /-- Characters in quotes. -/
  | literal (chars : List Char)
  /-- One of the characters in some ranges. -/
  | set (ranges : List (Char × Char))
  /-- One of the characters outside of some ranges. -/
  | complement (ranges : List (Char × Char))
  /-- Any character. -/
  | any
  deriving DecidableEq, Repr

/-- Whether a character lies in one of some ranges. -/
def LiesIn (ranges : List (Char × Char)) (c : Char) : Prop :=
  ∃ range ∈ ranges, range.1 ≤ c ∧ c ≤ range.2

/-- The texts of one character with a property. -/
def oneOf (holds : Char → Prop) : Language Char :=
  {word | ∃ c, word = [c] ∧ holds c}

/-- **The texts that an atom matches,** where `rules` gives those of the rules by their names. -/
def LexerAtom.language (rules : String → Language Char) : LexerAtom → Language Char
  | .name rule => rules rule
  | .literal chars => {chars}
  | .set ranges => oneOf (LiesIn ranges)
  | .complement ranges => oneOf fun c => ¬LiesIn ranges c
  | .any => oneOf fun _ => True

/-- Reads the characters of a literal up to its closing quote. -/
def readLiteral (cs : List Char) : Option (List Char × List Char) :=
  if cs.head? = some '\'' then some ([], cs.tail)
  else
    match readChar .literal cs with
    | none => none
    | some (c, rest) =>
      if rest.length < cs.length then
        (readLiteral rest).map fun read => (c :: read.1, read.2)
      else none
termination_by cs.length

/-- Reads the ranges of a set up to its closing bracket.  A character alone is a range of one. -/
def readRanges (cs : List Char) : Option (List (Char × Char) × List Char) :=
  if cs.head? = some ']' then some ([], cs.tail)
  else
    match readChar .charSet cs with
    | none => none
    | some (first, after) =>
      if after.head? = some '-' then
        match readChar .charSet after.tail with
        | none => none
        | some (last, rest) =>
          if rest.length < cs.length then
            (readRanges rest).map fun read => ((first, last) :: read.1, read.2)
          else none
      else if after.length < cs.length then
        (readRanges after).map fun read => ((first, first) :: read.1, read.2)
      else none
termination_by cs.length

/-- **Reads an atom of a lexer rule.** -/
def readAtom : List Char → Option (LexerAtom × List Char)
  | '\'' :: cs => (readLiteral cs).map fun read => (.literal read.1, read.2)
  | '[' :: cs => (readRanges cs).map fun read => (.set read.1, read.2)
  | '~' :: '[' :: cs => (readRanges cs).map fun read => (.complement read.1, read.2)
  | '.' :: cs => some (.any, cs)
  | cs => (readName cs).map fun read => (.name read.1, read.2)

/-! ## Characters are read back -/

lemma hexDigit?_hexUpper : ∀ digit < 16, hexDigit? (hexUpper digit) = some digit := by
  decide

lemma hexUpper_ne_brace : ∀ digit < 16, hexUpper digit ≠ '\x7b' ∧ hexUpper digit ≠ '\x7d' := by
  decide

lemma hexNumber?_append (start : Nat) (digits : List Char) (c : Char) :
    hexNumber? start (digits ++ [c])
      = (hexNumber? start digits).bind fun n => (hexDigit? c).map (16 * n + ·) := by
  induction digits generalizing start with
  | nil => simp [hexNumber?, Option.bind_some, Option.map_eq_bind]
  | cons d digits ih =>
      simp only [List.cons_append, hexNumber?, Option.bind_assoc, ih]

/-- **A number is read back from its hexadecimal digits,** if these are enough for it. -/
lemma hexNumber?_hexDigits : ∀ (width n : Nat), n < 16 ^ width →
    hexNumber? 0 (hexDigits hexUpper width n) = some n
  | 0, n, h => by
      have hn : n = 0 := by simpa using h
      rw [hn]
      rfl
  | width + 1, n, h => by
      have hquotient : n / 16 < 16 ^ width := by
        rw [Nat.div_lt_iff_lt_mul (by decide)]
        rwa [Nat.pow_succ] at h
      have hremainder : n % 16 < 16 := Nat.mod_lt n (by decide)
      rw [hexDigits, hexNumber?_append, hexNumber?_hexDigits width (n / 16) hquotient,
        Option.bind_some, hexDigit?_hexUpper _ hremainder, Option.map_some, Nat.div_add_mod]

lemma mem_hexDigits {c : Char} : ∀ {width n : Nat}, c ∈ hexDigits hexUpper width n →
    ∃ digit < 16, c = hexUpper digit
  | 0, n, h => by
      simp [hexDigits] at h
  | width + 1, n, h => by
      rw [hexDigits, List.mem_append, List.mem_singleton] at h
      rcases h with h | h
      · exact mem_hexDigits h
      · exact ⟨n % 16, Nat.mod_lt n (by decide), h⟩

lemma brace_notMem_hexDigits (width n : Nat) :
    '\x7b' ∉ hexDigits hexUpper width n ∧ '\x7d' ∉ hexDigits hexUpper width n := by
  constructor
  · intro h
    rcases mem_hexDigits h with ⟨digit, hdigit, hc⟩
    exact (hexUpper_ne_brace digit hdigit).1 hc.symm
  · intro h
    rcases mem_hexDigits h with ⟨digit, hdigit, hc⟩
    exact (hexUpper_ne_brace digit hdigit).2 hc.symm

lemma hexChar?_hexDigits {width : Nat} {c : Char} (h : c.toNat < 16 ^ width) :
    hexChar? (hexDigits hexUpper width c.toNat) = some c := by
  have hvalid : c.toNat.isValidChar := c.valid
  rw [hexChar?, hexNumber?_hexDigits width c.toNat h, Option.bind_some, charOf?, if_pos hvalid,
    Char.ofNat_toNat]

lemma readCodePoint_four {digits : List Char} (hlength : digits.length = 4)
    (hbrace : '\x7b' ∉ digits) (rest : List Char) :
    readCodePoint (digits ++ rest) = (hexChar? digits).map fun c => (c, rest) := by
  have hfour : 4 ≤ (digits ++ rest).length := by
    rw [List.length_append]
    omega
  rw [readCodePoint, if_pos hfour, List.take_left' hlength, List.drop_left' hlength]
  intro cs hcs
  cases digits with
  | nil => simp at hlength
  | cons d digits =>
      rcases List.cons.inj hcs with ⟨rfl, -⟩
      exact hbrace (by simp)

lemma readCodePoint_braces {digits : List Char} (hbrace : '\x7d' ∉ digits) (rest : List Char) :
    readCodePoint ('\x7b' :: digits ++ '\x7d' :: rest)
      = (hexChar? digits).map fun c => (c, rest) := by
  have hall : ∀ c ∈ digits, decide (c ≠ '\x7d') = true := by
    intro c hc
    exact decide_eq_true fun h => hbrace (h ▸ hc)
  have htake : (digits ++ '\x7d' :: rest).takeWhile (· ≠ '\x7d') = digits := by
    rw [List.takeWhile_append_of_pos hall, List.takeWhile_cons_of_neg (by simp), List.append_nil]
  have hdrop : (digits ++ '\x7d' :: rest).dropWhile (· ≠ '\x7d') = '\x7d' :: rest := by
    rw [List.dropWhile_append_of_pos hall, List.dropWhile_cons_of_neg (by simp)]
  rw [List.cons_append, readCodePoint, hdrop, htake]

/-- **A character is read back from its code point.** -/
lemma readChar_unicodeEscape (context : EscapeContext) (c : Char) (rest : List Char) :
    readChar context (unicodeEscape c ++ rest) = some (c, rest) := by
  by_cases hsmall : c.toNat ≤ 0xFFFF
  · have hfour : c.toNat < 16 ^ 4 := by omega
    have hescape : unicodeEscape c = '\\' :: 'u' :: hexDigits hexUpper 4 c.toNat := if_pos hsmall
    rw [hescape, List.cons_append, List.cons_append, readChar,
      readCodePoint_four (length_hexDigits _ _ _) (brace_notMem_hexDigits _ _).1,
      hexChar?_hexDigits hfour, Option.map_some]
  · have hwidth : c.toNat < 16 ^ (if c.toNat ≤ 0xFFFFF then 5 else 6) := by
      have hlt : c.toNat < 0x110000 := by
        have hvalid : c.toNat.isValidChar := c.valid
        rcases hvalid with h | ⟨-, h⟩
        · exact Nat.lt_trans h (by decide)
        · exact h
      split <;> omega
    have hescape : unicodeEscape c = '\\' :: 'u' ::
        ('\x7b' :: hexDigits hexUpper (if c.toNat ≤ 0xFFFFF then 5 else 6) c.toNat ++ ['\x7d']) :=
      if_neg hsmall
    rw [hescape, List.cons_append, List.cons_append, readChar, List.append_assoc,
      List.singleton_append, readCodePoint_braces (brace_notMem_hexDigits _ _).2,
      hexChar?_hexDigits hwidth, Option.map_some]

/-- The letter of a short escape stands for its character, and is not the one of code points. -/
lemma shortForm?_of_shortEscape? {c letter : Char} (h : shortEscape? c = some letter) :
    shortForm? letter = some c ∧ letter ≠ 'u' := by
  rw [shortEscape?] at h
  split_ifs at h <;> cases h <;> subst c <;> decide

/-- A mark stands for itself after a backslash, and only there. -/
lemma needsBackslash_of_mem_marks {context : EscapeContext} {c : Char} (h : c ∈ context.marks) :
    needsBackslash context c = true ∧ shortForm? c = none ∧ c ≠ 'u' := by
  cases context with
  | literal =>
      obtain rfl := List.mem_singleton.mp h
      decide
  | charSet =>
      have hcases : c = ']' ∨ c = '-' := by
        simpa only [EscapeContext.marks, List.mem_cons, List.not_mem_nil, or_false] using h
      rcases hcases with rfl | rfl <;> decide

lemma needsBackslash_of_notMem_marks {context : EscapeContext} {c : Char}
    (h : c ∉ context.marks) : needsBackslash context c = false := by
  cases context <;> simpa [needsBackslash, EscapeContext.marks] using h

lemma readChar_backslash (context : EscapeContext) {letter : Char} (hu : letter ≠ 'u')
    (rest : List Char) :
    readChar context ('\\' :: letter :: rest)
      = match shortForm? letter with
        | some meant => some (meant, rest)
        | none => if needsBackslash context letter then some (letter, rest) else none := by
  rw [readChar]
  exact hu

lemma readChar_plain {context : EscapeContext} {c : Char} (hbackslash : c ≠ '\\')
    (hneeds : needsBackslash context c = false) (hnewline : c ≠ '\n') (hreturn : c ≠ '\r')
    (rest : List Char) : readChar context (c :: rest) = some (c, rest) := by
  rw [readChar]
  · simp [hneeds, hnewline, hreturn]
  all_goals
    intros
    exact hbackslash ‹_›

/-- **A character is read back from its escape,** in either place. -/
lemma readChar_escapeChar (context : EscapeContext) (c : Char) (rest : List Char) :
    readChar context (escapeChar context c ++ rest) = some (c, rest) := by
  rw [escapeChar]
  cases hshort : shortEscape? c with
  | some letter =>
      rcases shortForm?_of_shortEscape? hshort with ⟨hform, hu⟩
      show readChar context ('\\' :: letter :: rest) = some (c, rest)
      rw [readChar_backslash context hu, hform]
  | none =>
      dsimp only
      split_ifs with hmark hhidden
      · rcases needsBackslash_of_mem_marks hmark with ⟨hneeds, hform, hu⟩
        show readChar context ('\\' :: c :: rest) = some (c, rest)
        rw [readChar_backslash context hu, hform]
        exact if_pos hneeds
      · exact readChar_unicodeEscape context c rest
      · have hplain : c ≠ '\\' ∧ c ≠ '\n' ∧ c ≠ '\r' := by
          refine ⟨?_, ?_, ?_⟩ <;> rintro rfl <;> exact absurd hshort (by decide)
        exact readChar_plain hplain.1 (needsBackslash_of_notMem_marks hmark) hplain.2.1
          hplain.2.2 rest

/-! ## Literals and sets are read back -/

/-- What is read as a character begins with no mark of its place. -/
lemma needsBackslash_of_readChar {context : EscapeContext} {d : Char} {ds : List Char}
    (hneeds : needsBackslash context d = true) : readChar context (d :: ds) = none := by
  have hbackslash : d ≠ '\\' := by
    rintro rfl
    cases context <;> exact Bool.noConfusion hneeds
  rw [readChar]
  · simp [hneeds]
  all_goals
    intros
    exact hbackslash ‹_›

lemma escapeChar_ne_nil (context : EscapeContext) (c : Char) : escapeChar context c ≠ [] := by
  intro h
  have hread := readChar_escapeChar context c []
  rw [h] at hread
  exact absurd hread (by simp [readChar])

lemma length_lt_escapeChar (context : EscapeContext) (c : Char) (rest : List Char) :
    rest.length < (escapeChar context c ++ rest).length := by
  have hpos := List.length_pos_iff.mpr (escapeChar_ne_nil context c)
  rw [List.length_append]
  omega

/-- No mark stands at the beginning of an escape, so none is taken for the end of a literal or of a
set, nor for a range. -/
lemma head?_escapeChar_ne {context : EscapeContext} {mark : Char}
    (hmark : needsBackslash context mark = true) (c : Char) (rest : List Char) :
    (escapeChar context c ++ rest).head? ≠ some mark := by
  intro h
  rcases List.head?_eq_some_iff.mp h with ⟨ds, hds⟩
  have hread := readChar_escapeChar context c rest
  rw [hds, needsBackslash_of_readChar hmark] at hread
  exact absurd hread (by simp)

/-- **The characters of a literal are read back.** -/
lemma readLiteral_escapeChars (cs rest : List Char) :
    readLiteral (escapeChars .literal cs ++ '\'' :: rest) = some (cs, rest) := by
  induction cs with
  | nil =>
      rw [readLiteral]
      rfl
  | cons c cs ih =>
      rw [escapeChars_cons, List.append_assoc, readLiteral,
        if_neg (head?_escapeChar_ne rfl c _), readChar_escapeChar]
      dsimp only
      rw [if_pos (length_lt_escapeChar _ _ _), ih, Option.map_some]

lemma readRanges_character (c : Char) {rest : List Char} (hrest : rest.head? ≠ some '-') :
    readRanges (escapeChar .charSet c ++ rest)
      = (readRanges rest).map fun read => ((c, c) :: read.1, read.2) := by
  rw [readRanges, if_neg (head?_escapeChar_ne rfl c _), readChar_escapeChar]
  dsimp only
  rw [if_neg hrest, if_pos (length_lt_escapeChar _ _ _)]

lemma readRanges_range (first last : Char) (rest : List Char) :
    readRanges (escapeChar .charSet first ++ '-' :: (escapeChar .charSet last ++ rest))
      = (readRanges rest).map fun read => ((first, last) :: read.1, read.2) := by
  have hlast := length_lt_escapeChar .charSet last rest
  have hguard : rest.length
      < (escapeChar .charSet first ++ '-' :: (escapeChar .charSet last ++ rest)).length := by
    rw [List.length_append, List.length_cons]
    omega
  rw [readRanges, if_neg (head?_escapeChar_ne rfl first _), readChar_escapeChar]
  dsimp only
  rw [if_pos (by rfl), List.tail_cons, readChar_escapeChar]
  dsimp only
  rw [if_pos hguard]

end GrammarConversion.Reading
