import GrammarConversion.Text.Blank
import GrammarConversion.Text.Word

/-!
# Lexemes of embedded code

Code embedded in a grammar is cut into lexemes: white space, comments, quoted texts, numbers,
words, and marks of a single character.  The cut is coarse, since the code is never interpreted:
a number is a digit with the word characters and dots after it, and a quote or a comment that is
not closed begins with a mark like any other.

**Nothing is lost.**  Every character begins some lexeme, so the lexemes of a text, one after
another, are the text (`flatten_lexemes`); none of them is empty (`text_ne_nil`).
-/

namespace GrammarConversion.Code

open GrammarConversion.Text

inductive LexemeKind where
  | blank
  | comment
  | quoted
  | number
  | word
  | mark
  deriving DecidableEq, Repr

/-- A piece of code that is read as one. -/
structure Lexeme where
  kind : LexemeKind
  text : List Char
  deriving DecidableEq, Repr

/-- A lexeme cut off the beginning of some code, and the code after it. -/
structure Cut where
  lexeme : Lexeme
  rest : List Char

/-! ## Ends of comments and quoted texts -/

/-- The text up to the end of a block comment, and what follows it. -/
def throughBlockEnd? : List Char → Option (List Char × List Char)
  | [] => none
  | [_] => none
  | c :: d :: cs =>
    if c = '*' ∧ d = '/' then some ([c, d], cs)
    else (throughBlockEnd? (d :: cs)).map fun found => (c :: found.1, found.2)

/-- The text up to the closing quote, and what follows it.  A backslash takes the character after
it along, whatever that is. -/
def throughQuote? (mark : Char) : List Char → Option (List Char × List Char)
  | [] => none
  | [c] => if c = mark then some ([c], []) else none
  | c :: d :: cs =>
    if c = mark then some ([c], d :: cs)
    else if c = '\\' then (throughQuote? mark cs).map fun found => (c :: d :: found.1, found.2)
    else (throughQuote? mark (d :: cs)).map fun found => (c :: found.1, found.2)

/-- The comment that begins with `c`, if one does. -/
def comment? (c : Char) (cs : List Char) : Option Cut :=
  match c, cs with
  | '/', '/' :: more =>
    some ⟨⟨.comment, '/' :: '/' :: more.takeWhile (· ≠ '\n')⟩, more.dropWhile (· ≠ '\n')⟩
  | '/', '*' :: more =>
    (throughBlockEnd? more).map fun found => ⟨⟨.comment, '/' :: '*' :: found.1⟩, found.2⟩
  | _, _ => none

/-- The quoted text that begins with `c`, if one does. -/
def quoted? (c : Char) (cs : List Char) : Option Cut :=
  if c = '"' ∨ c = '\'' then
    (throughQuote? c cs).map fun found => ⟨⟨.quoted, c :: found.1⟩, found.2⟩
  else none

/-! ## Cutting code -/

/-- The longest lexeme of `kind` that begins with `c` and goes on with characters of `p`. -/
def run (kind : LexemeKind) (p : Char → Bool) (c : Char) (cs : List Char) : Cut :=
  ⟨⟨kind, c :: cs.takeWhile p⟩, cs.dropWhile p⟩

/-- **The first lexeme of some code.** -/
def firstLexeme (c : Char) (cs : List Char) : Cut :=
  if isBlank c then run .blank isBlank c cs
  else match comment? c cs with
    | some cut => cut
    | none => match quoted? c cs with
      | some cut => cut
      | none =>
        if isDecimalDigit c then run .number (fun d => isWordChar d || d == '.') c cs
        else if isWordChar c then run .word isWordChar c cs
        else ⟨⟨.mark, [c]⟩, cs⟩

theorem throughBlockEnd?_append {cs text rest : List Char}
    (h : throughBlockEnd? cs = some (text, rest)) : text ++ rest = cs := by
  fun_induction throughBlockEnd? cs generalizing text rest with
  | case1 => simp at h
  | case2 => simp at h
  | case3 c d cs hcd =>
    obtain ⟨rfl, rfl⟩ : [c, d] = text ∧ cs = rest := by simpa using h
    simp
  | case4 c d cs hcd ih =>
    obtain ⟨found, hfound, heq⟩ := Option.map_eq_some_iff.1 h
    obtain ⟨rfl, rfl⟩ : c :: found.1 = text ∧ found.2 = rest := by simpa using heq
    simp [ih hfound]

theorem throughQuote?_append {mark : Char} {cs text rest : List Char}
    (h : throughQuote? mark cs = some (text, rest)) : text ++ rest = cs := by
  induction cs using throughQuote?.induct mark generalizing text rest with
  | case1 => simp [throughQuote?] at h
  | case2 =>
    obtain ⟨rfl, rfl⟩ : [mark] = text ∧ [] = rest := by simpa [throughQuote?] using h
    simp
  | case3 c hc => simp [throughQuote?, hc] at h
  | case4 d cs =>
    obtain ⟨rfl, rfl⟩ : [mark] = text ∧ d :: cs = rest := by simpa [throughQuote?] using h
    simp
  | case5 d cs hc ih =>
    simp only [throughQuote?, if_neg hc, if_true] at h
    obtain ⟨found, hfound, heq⟩ := Option.map_eq_some_iff.1 h
    obtain ⟨rfl, rfl⟩ : '\\' :: d :: found.1 = text ∧ found.2 = rest := by simpa using heq
    simp [ih hfound]
  | case6 c d cs hc hd ih =>
    simp only [throughQuote?, if_neg hc, if_neg hd] at h
    obtain ⟨found, hfound, heq⟩ := Option.map_eq_some_iff.1 h
    obtain ⟨rfl, rfl⟩ : c :: found.1 = text ∧ found.2 = rest := by simpa using heq
    simp [ih hfound]

theorem comment?_append {c : Char} {cs : List Char} {cut : Cut} (h : comment? c cs = some cut) :
    cut.lexeme.text ++ cut.rest = c :: cs := by
  unfold comment? at h
  split at h
  · simp only [Option.some.injEq] at h
    subst h
    simp
  · obtain ⟨found, hfound, rfl⟩ := Option.map_eq_some_iff.1 h
    simp [throughBlockEnd?_append hfound]
  · simp at h

theorem quoted?_append {c : Char} {cs : List Char} {cut : Cut} (h : quoted? c cs = some cut) :
    cut.lexeme.text ++ cut.rest = c :: cs := by
  unfold quoted? at h
  split at h
  · obtain ⟨found, hfound, rfl⟩ := Option.map_eq_some_iff.1 h
    simp [throughQuote?_append hfound]
  · simp at h

theorem comment?_ne_nil {c : Char} {cs : List Char} {cut : Cut} (h : comment? c cs = some cut) :
    cut.lexeme.text ≠ [] := by
  unfold comment? at h
  split at h
  · simp only [Option.some.injEq] at h
    subst h
    simp
  · obtain ⟨found, hfound, rfl⟩ := Option.map_eq_some_iff.1 h
    simp
  · simp at h

theorem quoted?_ne_nil {c : Char} {cs : List Char} {cut : Cut} (h : quoted? c cs = some cut) :
    cut.lexeme.text ≠ [] := by
  unfold quoted? at h
  split at h
  · obtain ⟨found, hfound, rfl⟩ := Option.map_eq_some_iff.1 h
    simp
  · simp at h

theorem firstLexeme_append (c : Char) (cs : List Char) :
    (firstLexeme c cs).lexeme.text ++ (firstLexeme c cs).rest = c :: cs := by
  unfold firstLexeme run
  split
  · simp
  · split
    · exact comment?_append ‹_›
    · split
      · exact quoted?_append ‹_›
      · split
        · simp
        · split <;> simp

theorem firstLexeme_ne_nil (c : Char) (cs : List Char) :
    (firstLexeme c cs).lexeme.text ≠ [] := by
  unfold firstLexeme run
  split
  · simp
  · split
    · exact comment?_ne_nil ‹_›
    · split
      · exact quoted?_ne_nil ‹_›
      · split
        · simp
        · split <;> simp

theorem length_rest_firstLexeme_lt (c : Char) (cs : List Char) :
    (firstLexeme c cs).rest.length < (c :: cs).length := by
  have happend := congrArg List.length (firstLexeme_append c cs)
  have hpos := List.length_pos_iff.2 (firstLexeme_ne_nil c cs)
  simp only [List.length_append] at happend
  omega

def lexemes : List Char → List Lexeme
  | [] => []
  | c :: cs => (firstLexeme c cs).lexeme :: lexemes (firstLexeme c cs).rest
termination_by code => code.length
decreasing_by exact length_rest_firstLexeme_lt c cs

/-- **The lexemes of some code, one after another, are the code.** -/
theorem flatten_lexemes (code : List Char) :
    ((lexemes code).map Lexeme.text).flatten = code := by
  fun_induction lexemes code with
  | case1 => rfl
  | case2 c cs ih => simp [ih, firstLexeme_append]

theorem text_ne_nil {code : List Char} {lexeme : Lexeme} (h : lexeme ∈ lexemes code) :
    lexeme.text ≠ [] := by
  fun_induction lexemes code with
  | case1 => simp at h
  | case2 c cs ih =>
    rcases List.mem_cons.1 h with rfl | h
    · exact firstLexeme_ne_nil c cs
    · exact ih h

end GrammarConversion.Code
