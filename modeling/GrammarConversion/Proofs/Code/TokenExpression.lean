import Mathlib.Tactic.Lemma
import GrammarConversion.Code.Lexeme

/-!
# The expression for lexemes of code

The lexemes of embedded code are the matches of one expression: white space, a comment, a quoted
text, a number, a word, or any other character, and the first alternative that matches wins.  Some of
them are not looked for by going on as far as possible.  A block comment ends as early as it can, and
a quoted text goes on as far as it can but has to give characters back until a quote follows.

A matcher gives all ways to match the beginning of a text in the order in which they are tried
(`Matcher`); what is found is the first of them.  Text at whose beginning nothing matches is passed
over character by character, so it would be lost without notice (`Finds`).

* `head?_many_oneOf`: the first way to match characters of a class goes on as long as there are any.
* `head?_fewestUpTo_blockEnd`, `head?_manyUpTo_quote`: **what is found in the end is what a scan from
  left to right finds,** the first end of a block comment and the first quote without a backslash.
* `matchAt?_cons`: **the expression matches at every character,** and matches the first lexeme, so
  that the lexemes of some code are all that it finds (`finds_iff`).
-/

namespace GrammarConversion.Code

open Text

/-- **What a part of an expression matches at the beginning of a text:** each way to match as the
text that is taken and the text that is left, in the order in which they are tried. -/
def Matcher : Type :=
  List Char → List (List Char × List Char)

namespace Matcher

/-! ## Parts of expressions -/

/-- A character of a class. -/
def oneOf (p : Char → Bool) : Matcher
  | [] => []
  | c :: cs => if p c then [([c], cs)] else []

def exactly (c : Char) : Matcher :=
  oneOf (· == c)

def nothing : Matcher :=
  fun text => [([], text)]

/-- One part after another: for each way to match the first part, all ways to go on from there. -/
def andThen (first second : Matcher) : Matcher :=
  fun text => (first text).flatMap fun found =>
    (second found.2).map fun next => (found.1 ++ next.1, next.2)

/-- Two alternatives; the second is tried after the first. -/
def orElse (first second : Matcher) : Matcher :=
  fun text => first text ++ second text

/-- A part at most `n` times in a row, as often as it goes first. -/
def manyUpTo (part : Matcher) : Nat → Matcher
  | 0 => nothing
  | n + 1 => (part.andThen (part.manyUpTo n)).orElse nothing

/-- A part at most `n` times in a row, as seldom as it goes first. -/
def fewestUpTo (part : Matcher) : Nat → Matcher
  | 0 => nothing
  | n + 1 => nothing.orElse (part.andThen (part.fewestUpTo n))

/-- A part as often as it goes first.  It takes a character each time, so the characters that are
left bound how often it goes. -/
def many (part : Matcher) : Matcher :=
  fun text => part.manyUpTo text.length text

/-- A part as seldom as it goes first. -/
def fewest (part : Matcher) : Matcher :=
  fun text => part.fewestUpTo text.length text

section Parts

variable {p : Char → Bool} {c : Char} {cs text : List Char} {first second next : Matcher}

@[simp]
lemma oneOf_cons : oneOf p (c :: cs) = if p c then [([c], cs)] else [] := rfl

@[simp]
lemma exactly_nil : exactly c [] = [] := rfl

@[simp]
lemma exactly_cons {d : Char} : exactly d (c :: cs) = if c = d then [([c], cs)] else [] := by
  simp [exactly]

@[simp]
lemma nothing_apply : nothing text = [([], text)] := rfl

lemma andThen_apply : first.andThen second text
    = (first text).flatMap fun found =>
        (second found.2).map fun next => (found.1 ++ next.1, next.2) := rfl

lemma andThen_assoc :
    (first.andThen second).andThen next text = first.andThen (second.andThen next) text := by
  simp [andThen_apply, List.flatMap_assoc, List.flatMap_map, List.map_flatMap, Function.comp_def]

lemma orElse_andThen :
    (first.orElse second).andThen next text
      = first.andThen next text ++ second.andThen next text := by
  simp [andThen_apply, orElse]

lemma nothing_andThen : nothing.andThen next text = next text := by
  simp [andThen_apply]

@[simp]
lemma oneOf_andThen_cons :
    (oneOf p).andThen next (c :: cs)
      = if p c then (next cs).map fun found => (c :: found.1, found.2) else [] := by
  by_cases hc : p c = true <;> simp [andThen_apply, hc]

@[simp]
lemma exactly_andThen_nil : (exactly c).andThen next [] = [] := rfl

@[simp]
lemma exactly_andThen_cons {d : Char} :
    (exactly d).andThen next (c :: cs)
      = if c = d then (next cs).map fun found => (c :: found.1, found.2) else [] := by
  simp [exactly]

/-- **Characters of a class are taken as long as there are any.** -/
lemma head?_manyUpTo_oneOf (n : Nat) :
    ∀ text : List Char, text.length ≤ n →
      ((oneOf p).manyUpTo n text).head? = some (text.takeWhile p, text.dropWhile p) := by
  induction n with
  | zero =>
      intro text hlength
      obtain rfl := List.length_eq_zero_iff.mp (Nat.le_zero.mp hlength)
      rfl
  | succ n ih =>
      intro text hlength
      cases text with
      | nil => rfl
      | cons c cs =>
          have hrest := ih cs (by simpa using hlength)
          by_cases hc : p c = true
          · simp [manyUpTo, orElse, hc, hrest]
          · simp [manyUpTo, orElse, hc]

lemma head?_many_oneOf :
    ((oneOf p).many text).head? = some (text.takeWhile p, text.dropWhile p) :=
  head?_manyUpTo_oneOf text.length text (Nat.le_refl _)

end Parts

/-! ## Comments and quoted texts -/

def anyCharacter : Matcher :=
  oneOf fun _ => true

/-- The end of a block comment. -/
def blockEnd : Matcher :=
  (exactly '*').andThen (exactly '/')

/-- A character inside of a quoted text, or a backslash and the character after it. -/
def quotedCharacter (mark : Char) : Matcher :=
  ((exactly '\\').andThen anyCharacter).orElse (oneOf fun c => c ≠ mark && c ≠ '\\')

/-- Two slashes and the rest of the line, or all up to the end of a block comment. -/
def comment : Matcher :=
  ((exactly '/').andThen ((exactly '/').andThen (oneOf (· ≠ '\n')).many)).orElse
    ((exactly '/').andThen ((exactly '*').andThen (anyCharacter.fewest.andThen blockEnd)))

/-- A text between two quotes. -/
def quotedBy (mark : Char) : Matcher :=
  (exactly mark).andThen ((quotedCharacter mark).many.andThen (exactly mark))

section Texts

variable {mark c : Char} {cs text : List Char} {next : Matcher}

@[simp]
lemma anyCharacter_andThen_nil : anyCharacter.andThen next [] = [] := rfl

@[simp]
lemma anyCharacter_andThen_cons :
    anyCharacter.andThen next (c :: cs)
      = (next cs).map fun found => (c :: found.1, found.2) := by
  simp [anyCharacter]

lemma quotedCharacter_andThen :
    (quotedCharacter mark).andThen next text
      = (exactly '\\').andThen (anyCharacter.andThen next) text
          ++ (oneOf fun c => c ≠ mark && c ≠ '\\').andThen next text := by
  rw [quotedCharacter, orElse_andThen, andThen_assoc]

/-- **A block comment ends where its end is first found.** -/
lemma head?_fewestUpTo_blockEnd (n : Nat) :
    ∀ text : List Char, text.length ≤ n →
      ((anyCharacter.fewestUpTo n).andThen blockEnd text).head? = throughBlockEnd? text := by
  induction n with
  | zero =>
      intro text hlength
      obtain rfl := List.length_eq_zero_iff.mp (Nat.le_zero.mp hlength)
      rfl
  | succ n ih =>
      intro text hlength
      rw [fewestUpTo, orElse_andThen, nothing_andThen, andThen_assoc]
      cases text with
      | nil => rfl
      | cons c cs =>
          have hrest := ih cs (by simpa using hlength)
          cases cs with
          | nil =>
              have hnone : blockEnd [c] = [] := by simp [blockEnd]
              simpa [hnone, throughBlockEnd?] using hrest
          | cons d ds =>
              rw [throughBlockEnd?]
              split
              · rename_i hend
                simp [blockEnd, hend]
              · rename_i hother
                have hnone : blockEnd (c :: d :: ds) = [] := by
                  simpa [blockEnd] using not_and.mp hother
                simp [hnone, hrest]

/-- **A quoted text ends at the first quote that no backslash takes along.**  If there is none, giving
characters back does not help, since none of those that were taken is a quote. -/
lemma head?_manyUpTo_quote (hmark : mark ≠ '\\') (n : Nat) :
    ∀ text : List Char, text.length ≤ n →
      (((quotedCharacter mark).manyUpTo n).andThen (exactly mark) text).head?
        = throughQuote? mark text := by
  induction n with
  | zero =>
      intro text hlength
      obtain rfl := List.length_eq_zero_iff.mp (Nat.le_zero.mp hlength)
      rfl
  | succ n ih =>
      intro text hlength
      rw [manyUpTo, orElse_andThen, nothing_andThen, andThen_assoc, quotedCharacter_andThen]
      cases text with
      | nil => rfl
      | cons c cs =>
          have hrest := ih cs (by simpa using hlength)
          by_cases hclose : c = mark
          · subst hclose
            cases cs <;> simp [throughQuote?, hmark]
          · by_cases hescape : c = '\\'
            · subst hescape
              cases cs with
              | nil => simp [throughQuote?, hclose]
              | cons d ds =>
                  have hlater := ih ds (by simp at hlength; omega)
                  simp [throughQuote?, hclose, hlater, Function.comp_def]
            · cases cs with
              | nil => simpa [throughQuote?, hclose, hescape] using hrest
              | cons d ds => simp [throughQuote?, hclose, hescape, hrest]

end Texts

end Matcher

/-! ## The expression -/

/-- A named alternative of an expression. -/
structure Alternative where
  kind : LexemeKind
  matcher : Matcher

open Matcher

/-- **The expression for lexemes,** as alternatives in the order in which they are tried. -/
def lexemeExpression : List Alternative :=
  [⟨.blank, (oneOf isBlank).andThen (oneOf isBlank).many⟩,
   ⟨.comment, comment⟩,
   ⟨.quoted, (quotedBy '"').orElse (quotedBy '\'')⟩,
   ⟨.number, (oneOf isDecimalDigit).andThen (oneOf fun c => isWordChar c || c == '.').many⟩,
   ⟨.word, (oneOf fun c => isWordChar c && !isDecimalDigit c).andThen (oneOf isWordChar).many⟩,
   ⟨.mark, oneOf fun c => !isBlank c && !isWordChar c⟩]

/-- The first way in which an alternative matches the beginning of a text. -/
def Alternative.cut? (alternative : Alternative) (text : List Char) : Option Cut :=
  (alternative.matcher text).head?.map fun found => ⟨⟨alternative.kind, found.1⟩, found.2⟩

/-- What the expression matches at the beginning of a text: the first alternative that matches, in
its first way. -/
def matchAt? (text : List Char) : Option Cut :=
  lexemeExpression.findSome? fun alternative => alternative.cut? text

/-- **The matches of the expression in a text,** one after another.  A character at which nothing
matches is passed over. -/
inductive Finds : List Char → List Lexeme → Prop
  | done : Finds [] []
  | passed {c : Char} {cs : List Char} {found : List Lexeme} (hnone : matchAt? (c :: cs) = none)
      (hrest : Finds cs found) : Finds (c :: cs) found
  | matched {text : List Char} {cut : Cut} {found : List Lexeme} (hcut : matchAt? text = some cut)
      (hrest : Finds cut.rest found) : Finds text (cut.lexeme :: found)

section Expression

variable {p q : Char → Bool} {kind : LexemeKind} {c : Char} {cs : List Char}

/-- A character of one class, and those of another as long as there are any. -/
lemma cut?_run : Alternative.cut? ⟨kind, (oneOf p).andThen (oneOf q).many⟩ (c :: cs)
    = if p c then some (run kind q c cs) else none := by
  by_cases hc : p c = true
  · simp [Alternative.cut?, hc, head?_many_oneOf, run]
  · simp [Alternative.cut?, hc]

/-- The second slash or the star says which kind of comment it is. -/
lemma cut?_comment : Alternative.cut? ⟨.comment, comment⟩ (c :: cs) = comment? c cs := by
  have hblock : ∀ text, ((anyCharacter.fewest.andThen blockEnd) text).head? = throughBlockEnd? text :=
    fun text => head?_fewestUpTo_blockEnd text.length text (Nat.le_refl _)
  by_cases hslash : c = '/'
  · subst hslash
    cases cs with
    | nil => simp [Alternative.cut?, comment, comment?, orElse]
    | cons d ds =>
        by_cases hline : d = '/'
        · subst hline
          simp [Alternative.cut?, comment, comment?, orElse, head?_many_oneOf]
        · by_cases hstar : d = '*'
          · subst hstar
            simp [Alternative.cut?, comment, comment?, orElse, hblock, Function.comp_def]
          · simp [Alternative.cut?, comment, comment?, orElse, hline, hstar]
  · simp [Alternative.cut?, comment, comment?, orElse, hslash]

lemma cut?_quoted :
    Alternative.cut? ⟨.quoted, (quotedBy '"').orElse (quotedBy '\'')⟩ (c :: cs) = quoted? c cs := by
  have hquote : ∀ mark, mark ≠ '\\' → ∀ text,
      (((quotedCharacter mark).many.andThen (exactly mark)) text).head? = throughQuote? mark text :=
    fun mark hmark text => head?_manyUpTo_quote hmark text.length text (Nat.le_refl _)
  rw [quoted?]
  split
  · rename_i hmark
    obtain rfl | rfl := hmark
    · simp [Alternative.cut?, quotedBy, orElse, hquote, Function.comp_def]
    · simp [Alternative.cut?, quotedBy, orElse, hquote, Function.comp_def]
  · rename_i hmark
    simp [Alternative.cut?, quotedBy, orElse, not_or.mp hmark]

/-- **The expression matches at every character,** and what it matches is the first lexeme. -/
lemma matchAt?_cons (c : Char) (cs : List Char) : matchAt? (c :: cs) = some (firstLexeme c cs) := by
  simp only [matchAt?, lexemeExpression, List.findSome?_cons, List.findSome?_nil, cut?_run,
    cut?_comment, cut?_quoted]
  rw [firstLexeme]
  by_cases hblank : isBlank c = true
  · simp [hblank]
  · cases hcomment : comment? c cs with
    | some cut => simp [hblank]
    | none =>
        cases hquoted : quoted? c cs with
        | some cut => simp [hblank]
        | none =>
            by_cases hdigit : isDecimalDigit c = true
            · simp [hblank, hdigit]
            · by_cases hword : isWordChar c = true
              · simp [hblank, hdigit, hword]
              · simp [hblank, hdigit, hword, Alternative.cut?]

lemma matchAt?_nil : matchAt? [] = none := rfl

/-- **The lexemes of some code are the matches of the expression in it,** and nothing is passed
over. -/
lemma finds_iff {code : List Char} {found : List Lexeme} :
    Finds code found ↔ found = lexemes code := by
  constructor
  · intro h
    induction h with
    | done => rw [lexemes]
    | @passed c cs found hnone _ _ => simp [matchAt?_cons] at hnone
    | @matched text cut found hcut _ ih =>
        cases text with
        | nil => simp [matchAt?_nil] at hcut
        | cons c cs =>
            obtain rfl : firstLexeme c cs = cut := by simpa [matchAt?_cons] using hcut
            rw [lexemes, ih]
  · rintro rfl
    fun_induction lexemes code with
    | case1 => exact .done
    | case2 c cs ih => exact .matched (matchAt?_cons c cs) ih

end Expression

end GrammarConversion.Code
