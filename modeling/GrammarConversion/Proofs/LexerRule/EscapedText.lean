import GrammarConversion.Antlr.Literal
import GrammarConversion.Proofs.LexerRule.BodyText

/-!
# Escaped texts are read back

`GrammarConversion.Reading.readChar` knows in which place it reads.  Here a text is read by all
escapes at once, those of literals and those of sets, and without regard to where it might end:
`glyphs?` cuts it into its characters, each with the way in which it is written.  Whatever comes
after an escape, be it a digit, a brace or a backslash, is never taken for a part of it.

* `glyphs?_escapeChars_append`: the glyphs of an escaped text are the escapes of its characters.
* `isShown_of_mem_escapeChar`: no form of an escape shows what cannot be seen.

**`escape_readsBack` puts these together:** an escaped text is read back, it shows nothing that
cannot be seen, and the marks that would end it stand inside escapes only.  So the quote at the end
of a literal is the only one that is not escaped, and different texts have different literals.
-/

namespace GrammarConversion.Reading

open Antlr
open Text

/-! ## Reading by all escapes -/

/-- The character that a letter after a backslash stands for: one of the common ones, or else the
letter itself if it is a mark of any place. -/
def anyForm? (letter : Char) : Option Char :=
  match shortForm? letter with
  | some meant => some meant
  | none => if letter ∈ ['\'', ']', '-'] then some letter else none

/-- **Reads a character by the escapes of both places.**  Any character but the backslash stands
for itself. -/
def readAnyChar : List Char → Option (Char × List Char)
  | [] => none
  | '\\' :: [] => none
  | '\\' :: 'u' :: cs => readCodePoint cs
  | '\\' :: c :: cs => (anyForm? c).map fun meant => (meant, cs)
  | c :: cs => some (c, cs)

/-- A character of a text: the way it is written, and what is meant. -/
structure Glyph where
  written : List Char
  meant : Char
  deriving DecidableEq, Repr

/-- Whether a character is written by an escape. -/
def Glyph.IsEscape (glyph : Glyph) : Prop :=
  ∃ letter rest, glyph.written = '\\' :: letter :: rest

/-- **The characters of a text** that is read by the escapes of both places. -/
def glyphs? (cs : List Char) : Option (List Glyph) :=
  if cs = [] then some []
  else
    match readAnyChar cs with
    | none => none
    | some (c, rest) =>
      if rest.length < cs.length then
        (glyphs? rest).map (⟨cs.take (cs.length - rest.length), c⟩ :: ·)
      else none
termination_by cs.length

/-- Whether a mark stands inside escapes only. -/
def OnlyEscaped (mark : Char) (glyphs : List Glyph) : Prop :=
  ∀ glyph ∈ glyphs, mark ∈ glyph.written → glyph.IsEscape

/-- Whether a character can be seen: it is no control, and no white space but the plain space. -/
def IsShown (c : Char) : Prop :=
  isControl c = false ∧ (isBlank c = true → c = ' ')

/-- **A text that is written with escapes for a place,** where nothing is lost in reading. -/
structure IsEscaped (context : EscapeContext) (chars : List Char) (glyphs : List Glyph)
    (text : List Char) : Prop where
  read : glyphs? text = some glyphs
  /-- The characters tile the text. -/
  written : glyphs.flatMap Glyph.written = text
  meant : glyphs.map Glyph.meant = chars
  marks : ∀ mark, needsBackslash context mark = true → OnlyEscaped mark glyphs
  shown : ∀ c ∈ text, IsShown c

section Escapes

variable {context : EscapeContext} {c mark : Char} {cs : List Char}

/-! ## Characters are read back -/

/-- What is read in one place is read alike by all escapes. -/
lemma readAnyChar_of_readChar {read : Char × List Char} (h : readChar context cs = some read) :
    readAnyChar cs = some read := by
  revert h
  fun_cases readChar context cs <;> intro h
  case case1 | case2 | case6 | case7 => cases h
  case case3 => exact h
  case case4 letter rest hu meant hmeant =>
    rw [readAnyChar, anyForm?, hmeant]
    · exact h
    · exact hu
  case case5 letter rest hu hnone hneeds =>
    have hmark : letter ∈ ['\'', ']', '-'] := by
      cases context <;> simp_all [needsBackslash]
    rw [readAnyChar, anyForm?, hnone]
    · dsimp only
      rw [if_pos hmark]
      exact h
    · exact hu
  case case8 first rest halone hcode hletter _ =>
    rw [readAnyChar]
    · exact h
    · exact halone
    · exact hcode
    · exact hletter

lemma unicodeEscape_eq (c : Char) : ∃ digits, unicodeEscape c = '\\' :: 'u' :: digits ∧
    ∀ d ∈ digits, d = '\x7b' ∨ d = '\x7d' ∨ ∃ digit < 16, d = hexUpper digit := by
  rw [unicodeEscape]
  split
  · exact ⟨_, rfl, fun d hd => .inr (.inr (mem_hexDigits hd))⟩
  · refine ⟨'\x7b' :: hexDigits hexUpper (if c.toNat ≤ 0xFFFFF then 5 else 6) c.toNat ++ ['\x7d'],
      rfl, fun d hd => ?_⟩
    rw [List.mem_append, List.mem_cons, List.mem_singleton] at hd
    rcases hd with (rfl | hd) | rfl
    · exact .inl rfl
    · exact .inr (.inr (mem_hexDigits hd))
    · exact .inr (.inl rfl)

lemma isControl_hexUpper : ∀ digit < 16, isControl (hexUpper digit) = false := by
  decide

lemma isControl_of_mem_escapeChar {d : Char} (hd : d ∈ escapeChar context c) :
    isControl d = false := by
  rcases escapeChar_forms context c with
    ⟨letter, hescape, -, hletter⟩ | hescape | ⟨hescape, -, -, hc⟩
  · rw [hescape] at hd
    rcases List.mem_pair.mp hd with rfl | rfl
    · decide
    · exact hletter
  · rcases unicodeEscape_eq c with ⟨digits, hcode, hdigits⟩
    rw [hescape, hcode, List.mem_cons, List.mem_cons] at hd
    rcases hd with rfl | rfl | hd
    · decide
    · decide
    · rcases hdigits d hd with rfl | rfl | ⟨digit, hdigit, rfl⟩
      · decide
      · decide
      · exact isControl_hexUpper digit hdigit
  · rw [hescape] at hd
    rwa [List.mem_singleton.mp hd]

/-- **An escape shows nothing that cannot be seen.** -/
lemma isShown_of_mem_escapeChar {d : Char} (hd : d ∈ escapeChar context c) : IsShown d :=
  ⟨isControl_of_mem_escapeChar hd, isOneLine_escapeChar context c d hd⟩

/-! ## Texts are read back -/

/-- The characters of a text as they are escaped. -/
def escapedGlyphs (context : EscapeContext) (cs : List Char) : List Glyph :=
  cs.map fun c => ⟨escapeChar context c, c⟩

/-- **A mark of a place is written by an escape** there. -/
lemma onlyEscaped_escapedGlyphs (hmark : needsBackslash context mark = true) (cs : List Char) :
    OnlyEscaped mark (escapedGlyphs context cs) := by
  intro glyph hglyph hwritten
  rcases List.mem_map.mp hglyph with ⟨c, -, rfl⟩
  rcases escapeChar_forms context c with ⟨letter, hescape, -⟩ | hescape | ⟨hescape, hplain, -⟩
  · exact ⟨letter, [], hescape⟩
  · rcases unicodeEscape_eq c with ⟨digits, hcode, -⟩
    exact ⟨'u', digits, hescape.trans hcode⟩
  · dsimp only at hwritten
    rw [hescape, List.mem_singleton] at hwritten
    rw [← hwritten] at hplain
    rw [needsBackslash_of_notMem_marks hplain] at hmark
    exact Bool.noConfusion hmark

lemma glyphs?_nil : glyphs? [] = some [] := by
  rw [glyphs?]
  rfl

/-- **A character is read back before anything that comes after it.** -/
lemma glyphs?_escapeChar_append (context : EscapeContext) (c : Char) (rest : List Char) :
    glyphs? (escapeChar context c ++ rest)
      = (glyphs? rest).map (⟨escapeChar context c, c⟩ :: ·) := by
  have hread := readAnyChar_of_readChar (readChar_escapeChar context c rest)
  have hwritten : (escapeChar context c ++ rest).take
      ((escapeChar context c ++ rest).length - rest.length) = escapeChar context c := by
    rw [List.length_append, Nat.add_sub_cancel, List.take_left]
  rw [glyphs?, if_neg (by simp [escapeChar_ne_nil]), hread]
  dsimp only
  rw [if_pos (length_lt_escapeChar context c rest), hwritten]

lemma glyphs?_escapeChars_append (context : EscapeContext) (cs rest : List Char) :
    glyphs? (escapeChars context cs ++ rest)
      = (glyphs? rest).map (escapedGlyphs context cs ++ ·) := by
  induction cs with
  | nil => simp [escapedGlyphs]
  | cons c cs ih =>
      rw [escapeChars_cons, List.append_assoc, glyphs?_escapeChar_append, ih, Option.map_map]
      rfl

lemma isEscaped_escapeChars (context : EscapeContext) (cs : List Char) :
    IsEscaped context cs (escapedGlyphs context cs) (escapeChars context cs) where
  read := by
    have hread := glyphs?_escapeChars_append context cs []
    rwa [List.append_nil, glyphs?_nil, Option.map_some, List.append_nil] at hread
  written := by
    rw [escapedGlyphs, List.flatMap_map]
    rfl
  meant := by
    rw [escapedGlyphs, List.map_map]
    exact List.map_id cs
  marks _ hmark := onlyEscaped_escapedGlyphs hmark cs
  shown c hc := by
    rcases List.mem_flatMap.mp hc with ⟨d, -, hd⟩
    exact isShown_of_mem_escapeChar hd

/-! ## Literals -/

/-- The quote that ends a literal. -/
def closingQuote : Glyph :=
  ⟨['\''], '\''⟩

/-- **A text between quotes,** of which only the last is not escaped after the first. -/
def IsQuoted (chars text : List Char) : Prop :=
  ∃ glyphs inner, text = '\'' :: (inner ++ ['\'']) ∧ IsEscaped .literal chars glyphs inner ∧
    glyphs? (inner ++ ['\'']) = some (glyphs ++ [closingQuote])

lemma glyphs?_closingQuote : glyphs? ['\''] = some [closingQuote] := by
  rw [glyphs?, if_neg (List.cons_ne_nil _ _)]
  show (glyphs? []).map _ = _
  rw [glyphs?_nil]
  rfl

lemma isQuoted_verbatim (s : String) :
    IsQuoted s.toList (LiteralPart.verbatim s).body.toList := by
  refine ⟨escapedGlyphs .literal s.toList, escapeChars .literal s.toList, ?_,
    isEscaped_escapeChars .literal s.toList, ?_⟩
  · simp [LiteralPart.body]
  · rw [glyphs?_escapeChars_append, glyphs?_closingQuote, Option.map_some]

/-- **What stands between quotes is determined by the text.** -/
lemma IsQuoted.eq {chars chars' text : List Char} (h : IsQuoted chars text)
    (h' : IsQuoted chars' text) : chars = chars' := by
  rcases h with ⟨glyphs, inner, rfl, hescaped, -⟩
  rcases h' with ⟨glyphs', inner', htext, hescaped', -⟩
  obtain rfl : inner = inner' := List.append_cancel_right (List.cons.inj htext).2
  have hglyphs : glyphs = glyphs' :=
    Option.some.inj (hescaped.read.symm.trans hescaped'.read)
  rw [← hescaped.meant, hglyphs, hescaped'.meant]

end Escapes

/-- **Escaping is undone by reading,** in either place.  An escaped text is read back, shows nothing
that cannot be seen, and holds the marks of its place in escapes only.  In a literal the first quote
after the opening one that is not escaped is the last character, and a literal stands for one text
only. -/
theorem escape_readsBack :
    (∀ context s, ∃ glyphs, IsEscaped context s.toList glyphs (escape context s).toList) ∧
      (∀ s, IsQuoted s.toList (LiteralPart.verbatim s).body.toList) ∧
      Function.Injective fun s => (LiteralPart.verbatim s).body := by
  refine ⟨fun context s => ?_, isQuoted_verbatim, fun s t hsame => ?_⟩
  · rw [toList_escape]
    exact ⟨escapedGlyphs context s.toList, isEscaped_escapeChars context s.toList⟩
  · have hs := isQuoted_verbatim s
    rw [show (LiteralPart.verbatim s).body = (LiteralPart.verbatim t).body from hsame] at hs
    exact String.toList_inj.mp (hs.eq (isQuoted_verbatim t))

end GrammarConversion.Reading
