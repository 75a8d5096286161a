import Mathlib.Data.List.Basic
import Mathlib.Data.List.TakeWhile
import GrammarConversion.Code.Token
import GrammarConversion.Proofs.Code.TokenExpression

/-!
# Code as tokens and gaps

Between the tokens of some code there is nothing but white space and comments, and a token is what
its kind says.  A word is cut where it begins and where it ends: there is no word character on either
side of it.  That nothing follows is how words are cut.  That nothing precedes is a matter of what
was cut before, each of which ends with a character of no word or takes all word characters along
(`Cutting.apart`).

* `cutting_firstLexeme`: what a lexeme is and what follows it, by its kind.
* `Tiles.extend`: one lexeme before code that is tiled already.

**`tokenize_tiles`: the matches of the expression for lexemes are the code,** and without those that
are no tokens they are the tokens and the gaps between them.
-/

namespace GrammarConversion.Code

open Text

/-! ## Forms of texts -/

/-- A text without the quote `mark`, unless a backslash takes it along. -/
inductive IsQuoteBody (mark : Char) : List Char → Prop
  | nil : IsQuoteBody mark []
  | escaped {body : List Char} (c : Char) (h : IsQuoteBody mark body) :
      IsQuoteBody mark ('\\' :: c :: body)
  | plain {c : Char} {body : List Char} (hmark : c ≠ mark) (hescape : c ≠ '\\')
      (h : IsQuoteBody mark body) : IsQuoteBody mark (c :: body)

/-- **Whether a text is a closed string or character literal.** -/
def IsClosedQuote (text : List Char) : Prop :=
  ∃ mark body, (mark = '"' ∨ mark = '\'') ∧ IsQuoteBody mark body ∧ text = mark :: body ++ [mark]

/-- Whether a text begins with a decimal digit. -/
def BeginsWithDigit (text : List Char) : Prop :=
  ∃ c ∈ text.head?, isDecimalDigit c = true

/-- **Whether a text is a word between two others,** all of it. -/
structure IsWholeWord (before word after : List Char) : Prop where
  all : ∀ c ∈ word, isWordChar c = true
  start : ∃ c ∈ word.head?, isDecimalDigit c = false
  precedes : ∀ c ∈ before.getLast?, isWordChar c = false
  follows : ∀ c ∈ after.head?, isWordChar c = false

/-- A block comment, with its end in it only once. -/
def IsBlockComment (text : List Char) : Prop :=
  ∃ body, text = ['/', '*'] ++ body ++ ['*', '/'] ∧ ¬['*', '/'] <:+: body ++ ['*']

/-- A line comment with all of its line. -/
def IsLineComment (text after : List Char) : Prop :=
  ∃ body, text = ['/', '/'] ++ body ∧ '\n' ∉ body ∧ ∀ c ∈ after.head?, c = '\n'

/-- A text that is no token and belongs to none. -/
inductive IsSkipped (text after : List Char) : Prop
  | blank (hne : text ≠ []) (h : ∀ c ∈ text, isBlank c = true)
  | lineComment (h : IsLineComment text after)
  | blockComment (h : IsBlockComment text)

/-- **What may stand between two tokens:** white space and comments. -/
inductive IsGap : (gap after : List Char) → Prop
  | nil {after : List Char} : IsGap [] after
  | cons {text gap after : List Char} (htext : IsSkipped text (gap ++ after))
      (hgap : IsGap gap after) : IsGap (text ++ gap) after

/-- **Whether a token is what its kind says,** where it stands. -/
def Token.Fits (before after : List Char) (token : Token) : Prop :=
  match token.kind with
  | .literal => IsClosedQuote token.image.toList ∨ BeginsWithDigit token.image.toList
  | .identifier => IsWholeWord before token.image.toList after
  | .keyword => IsWholeWord before token.image.toList after
  | .operator => ∃ c, token.image.toList = [c] ∧ isBlank c = false ∧ isWordChar c = false

/-- **Code after `before` that is tokens with gaps between them,** and nothing else. -/
inductive Tiles : (before : List Char) → List Token → List Char → Prop
  | gap {before gap : List Char} (h : IsGap gap []) : Tiles before [] gap
  | token {before gap after : List Char} {token : Token} {tokens : List Token}
      (hgap : IsGap gap (token.image.toList ++ after)) (himage : token.image ≠ "")
      (hfits : token.Fits (before ++ gap) after)
      (hrest : Tiles (before ++ gap ++ token.image.toList) tokens after) :
      Tiles before (token :: tokens) (gap ++ token.image.toList ++ after)

/-! ## Cuts -/

lemma isWordChar_eq_false {c : Char} (hunderscore : c ≠ '_')
    (h : ∀ word ∈ alphanumericRanges, c.toNat < word.1 ∨ word.2 < c.toNat) :
    isWordChar c = false := by
  rw [← Bool.not_eq_true, isWordChar, Bool.or_eq_true, beq_iff_eq, not_or]
  refine ⟨hunderscore, fun hcovers => ?_⟩
  obtain ⟨word, hword, hfirst, hlast⟩ := covers_iff.mp hcovers
  have hapart := h word hword
  omega

lemma blankRanges_apart : ∀ blank ∈ blankRanges, ∀ word ∈ alphanumericRanges,
    blank.2 < word.1 ∨ word.2 < blank.1 := by
  decide +kernel

lemma isWordChar_eq_false_of_isBlank {c : Char} (h : isBlank c = true) : isWordChar c = false := by
  obtain ⟨blank, hblank, hfirst, hlast⟩ := covers_iff.mp h
  refine isWordChar_eq_false ?_ fun word hword => ?_
  · rintro rfl
    revert h
    decide
  · have hapart := blankRanges_apart blank hblank word hword
    omega

lemma slash_before_words : ∀ word ∈ alphanumericRanges, '/'.toNat < word.1 := by
  decide +kernel

/-- Quotes, slashes and the ends of lines come before all characters of words. -/
lemma isWordChar_eq_false_of_le_slash {c : Char} (h : c.toNat ≤ '/'.toNat) :
    isWordChar c = false := by
  refine isWordChar_eq_false ?_ fun word hword => .inl (h.trans_lt (slash_before_words word hword))
  rintro rfl
  exact absurd h (by decide)

/-- What a lexeme is and what follows it, by its kind. -/
inductive Cutting : Cut → Prop
  | blank {text rest : List Char} (hne : text ≠ []) (h : ∀ c ∈ text, isBlank c = true) :
      Cutting ⟨⟨.blank, text⟩, rest⟩
  | comment {text rest : List Char} (h : IsLineComment text rest ∨ IsBlockComment text) :
      Cutting ⟨⟨.comment, text⟩, rest⟩
  | quoted {text rest : List Char} (h : IsClosedQuote text) : Cutting ⟨⟨.quoted, text⟩, rest⟩
  | number {text rest : List Char} (hstart : BeginsWithDigit text)
      (hfollows : ∀ c ∈ rest.head?, isWordChar c = false) : Cutting ⟨⟨.number, text⟩, rest⟩
  | word {text rest : List Char} (hall : ∀ c ∈ text, isWordChar c = true)
      (hstart : ∃ c ∈ text.head?, isDecimalDigit c = false)
      (hfollows : ∀ c ∈ rest.head?, isWordChar c = false) : Cutting ⟨⟨.word, text⟩, rest⟩
  | mark {c : Char} {rest : List Char} (hblank : isBlank c = false)
      (hword : isWordChar c = false) : Cutting ⟨⟨.mark, [c]⟩, rest⟩

section Cuts

variable {c mark : Char} {cs text rest : List Char} {p : Char → Bool}

lemma eq_false_of_mem_head?_dropWhile (h : c ∈ (cs.dropWhile p).head?) : p c = false := by
  have hhead := List.head?_dropWhile_not p cs
  rw [Option.mem_def.mp h] at hhead
  simpa using hhead

lemma forall_mem_cons_takeWhile (h : p c = true) : ∀ d ∈ c :: cs.takeWhile p, p d = true :=
  List.forall_mem_cons.mpr ⟨h, fun _ hd => List.mem_takeWhile_imp hd⟩

lemma isBlockEnd_of_throughBlockEnd? (h : throughBlockEnd? cs = some (text, rest)) :
    ∃ body, text = body ++ ['*', '/'] ∧ ¬['*', '/'] <:+: body ++ ['*'] := by
  fun_induction throughBlockEnd? cs generalizing text rest with
  | case1 => simp at h
  | case2 => simp at h
  | case3 c d cs hend =>
      obtain ⟨rfl, rfl⟩ := hend
      obtain ⟨rfl, rfl⟩ : ['*', '/'] = text ∧ cs = rest := by simpa using h
      exact ⟨[], rfl, by decide⟩
  | case4 c d cs hother ih =>
      obtain ⟨found, hfound, heq⟩ := Option.map_eq_some_iff.mp h
      obtain ⟨rfl, rfl⟩ : c :: found.1 = text ∧ found.2 = rest := by simpa using heq
      obtain ⟨body, hbody, honce⟩ := ih hfound
      have happend : body ++ ['*', '/'] ++ found.2 = d :: cs := hbody ▸ throughBlockEnd?_append hfound
      refine ⟨c :: body, by simp [hbody], fun hinfix => ?_⟩
      obtain hprefix | hinfix := List.infix_cons_iff.mp hinfix
      · cases body with
        | nil => simp at hprefix
        | cons e body =>
            -- the end would begin with `c` and the character after it
            obtain ⟨rfl, rfl⟩ : '*' = c ∧ '/' = e := by simpa using hprefix
            exact hother ⟨rfl, (List.cons.inj happend).1.symm⟩
      · exact honce hinfix

lemma isQuoteBody_of_throughQuote? (h : throughQuote? mark cs = some (text, rest)) :
    ∃ body, text = body ++ [mark] ∧ IsQuoteBody mark body := by
  induction cs using throughQuote?.induct mark generalizing text rest with
  | case1 => simp [throughQuote?] at h
  | case2 =>
      obtain ⟨rfl, rfl⟩ : [mark] = text ∧ [] = rest := by simpa [throughQuote?] using h
      exact ⟨[], rfl, .nil⟩
  | case3 c hc => simp [throughQuote?, hc] at h
  | case4 d cs =>
      obtain ⟨rfl, rfl⟩ : [mark] = text ∧ d :: cs = rest := by simpa [throughQuote?] using h
      exact ⟨[], rfl, .nil⟩
  | case5 d cs hc ih =>
      simp only [throughQuote?, if_neg hc, if_true] at h
      obtain ⟨found, hfound, heq⟩ := Option.map_eq_some_iff.mp h
      obtain ⟨rfl, rfl⟩ : '\\' :: d :: found.1 = text ∧ found.2 = rest := by simpa using heq
      obtain ⟨body, hbody, hquote⟩ := ih hfound
      exact ⟨'\\' :: d :: body, by simp [hbody], hquote.escaped d⟩
  | case6 c d cs hmark hescape ih =>
      simp only [throughQuote?, if_neg hmark, if_neg hescape] at h
      obtain ⟨found, hfound, heq⟩ := Option.map_eq_some_iff.mp h
      obtain ⟨rfl, rfl⟩ : c :: found.1 = text ∧ found.2 = rest := by simpa using heq
      obtain ⟨body, hbody, hquote⟩ := ih hfound
      exact ⟨c :: body, by simp [hbody], hquote.plain hmark hescape⟩

lemma cutting_comment {cut : Cut} (h : comment? c cs = some cut) : Cutting cut := by
  unfold comment? at h
  split at h
  · rename_i more
    obtain rfl := Option.some.inj h
    refine .comment (.inl ⟨more.takeWhile (· ≠ '\n'), rfl, ?_, ?_⟩)
    · intro hmem
      simpa using List.mem_takeWhile_imp hmem
    · intro d hd
      simpa using eq_false_of_mem_head?_dropWhile hd
  · obtain ⟨found, hfound, rfl⟩ := Option.map_eq_some_iff.mp h
    obtain ⟨body, hbody, honce⟩ := isBlockEnd_of_throughBlockEnd? hfound
    exact .comment (.inr ⟨body, by simp [hbody], honce⟩)
  · cases h

lemma cutting_quoted {cut : Cut} (h : quoted? c cs = some cut) : Cutting cut := by
  unfold quoted? at h
  split at h
  · rename_i hmark
    obtain ⟨found, hfound, rfl⟩ := Option.map_eq_some_iff.mp h
    obtain ⟨body, hbody, hquote⟩ := isQuoteBody_of_throughQuote? hfound
    exact .quoted ⟨c, body, hmark, hquote, by simp [hbody]⟩
  · cases h

/-- **What a lexeme is and what follows it,** case by case as lexemes are cut. -/
lemma cutting_firstLexeme (c : Char) (cs : List Char) : Cutting (firstLexeme c cs) := by
  rw [firstLexeme]
  split
  · rename_i hblank
    exact .blank (by simp) (forall_mem_cons_takeWhile hblank)
  · rename_i hblank
    split
    · exact cutting_comment ‹_›
    · split
      · exact cutting_quoted ‹_›
      · split
        · rename_i hdigit
          refine .number ⟨c, by simp, hdigit⟩ fun d hd => ?_
          have hmore := eq_false_of_mem_head?_dropWhile hd
          exact (Bool.or_eq_false_iff.mp hmore).1
        · rename_i hdigit
          split
          · rename_i hword
            have hstart : ∃ d ∈ (c :: cs.takeWhile isWordChar).head?, isDecimalDigit d = false :=
              ⟨c, by simp, by simpa using hdigit⟩
            exact .word (forall_mem_cons_takeWhile hword) hstart fun d =>
              eq_false_of_mem_head?_dropWhile
          · rename_i hword
            exact .mark (by simpa using hblank) (by simpa using hword)

end Cuts

/-! ## Tiling -/

/-- Whether no word goes on from one text into the other. -/
def Apart (before after : List Char) : Prop :=
  (∀ c ∈ before.getLast?, isWordChar c = false) ∨ ∀ c ∈ after.head?, isWordChar c = false

section Tilings

variable {before text rest : List Char} {tokens : List Token} {cut : Cut}

lemma apart_of_last {c : Char} (h : isWordChar c = false) : Apart (before ++ [c]) rest := by
  refine .inl fun d hd => ?_
  obtain rfl : c = d := by simpa using hd
  exact h

/-- **No word goes on after a lexeme:** the lexeme ends with a character of no word, or took along
all that there was of one. -/
lemma Cutting.apart (h : Cutting cut) : Apart (before ++ cut.lexeme.text) cut.rest := by
  cases h with
  | blank hne h =>
      obtain ⟨text, c, rfl⟩ := (List.eq_nil_or_concat' _).resolve_left hne
      rw [← List.append_assoc]
      exact apart_of_last (isWordChar_eq_false_of_isBlank (h c (by simp)))
  | comment h =>
      obtain ⟨_, _, _, hline⟩ | ⟨body, rfl, _⟩ := h
      · refine .inr fun c hc => ?_
        rw [hline c hc]
        exact isWordChar_eq_false_of_le_slash (by decide)
      · have hlast : isWordChar '/' = false := isWordChar_eq_false_of_le_slash (Nat.le_refl _)
        have htext : before ++ (['/', '*'] ++ body ++ ['*', '/'])
            = before ++ ['/', '*'] ++ body ++ ['*'] ++ ['/'] := by simp
        rw [htext]
        exact apart_of_last hlast
  | quoted h =>
      obtain ⟨mark, body, hmark, _, rfl⟩ := h
      rw [← List.append_assoc]
      have hlast : isWordChar mark = false := by
        obtain rfl | rfl := hmark <;> exact isWordChar_eq_false_of_le_slash (by decide)
      exact apart_of_last hlast
  | number _ hfollows => exact .inr hfollows
  | word _ _ hfollows => exact .inr hfollows
  | mark _ hword => exact apart_of_last hword

/-- White space or a comment before tiled code is a part of its first gap. -/
lemma Tiles.skip (htext : IsSkipped text rest) (h : Tiles (before ++ text) tokens rest) :
    Tiles before tokens (text ++ rest) := by
  cases h with
  | gap hgap => exact .gap (.cons (by simpa using htext) hgap)
  | @token _ gap after token tokens hgap himage hfits hrest =>
      have hgap' : IsGap (text ++ gap) (token.image.toList ++ after) :=
        .cons (by simpa using htext) hgap
      simpa using Tiles.token hgap' himage (by simpa using hfits) (by simpa using hrest)

/-- A token right before tiled code. -/
lemma Tiles.prepend {kind : TokenKind} (htext : text ≠ [])
    (hfits : Token.Fits before rest ⟨kind, String.ofList text⟩)
    (h : Tiles (before ++ text) tokens rest) :
    Tiles before (⟨kind, String.ofList text⟩ :: tokens) (text ++ rest) := by
  have htiles : Tiles before (⟨kind, String.ofList text⟩ :: tokens)
      ([] ++ (String.ofList text).toList ++ rest) := by
    refine .token .nil (by simpa using htext) ?_ ?_
    · rwa [List.append_nil]
    · rwa [List.append_nil, String.toList_ofList]
  rwa [List.nil_append, String.toList_ofList] at htiles

/-- A word where none goes on stands between characters of no word. -/
lemma Cutting.isWholeWord (h : Cutting ⟨⟨.word, text⟩, rest⟩) (hapart : Apart before (text ++ rest)) :
    IsWholeWord before text rest := by
  cases h with
  | word hall hstart hfollows =>
      refine ⟨hall, hstart, hapart.resolve_right fun hhead => ?_, hfollows⟩
      obtain ⟨c, hc, _⟩ := hstart
      have hword := hall c (List.mem_of_mem_head? hc)
      rw [hhead c (by simp [Option.mem_def.mp hc])] at hword
      cases hword

/-- **One lexeme before tiled code:** a token, or a part of the first gap. -/
lemma Tiles.extend (hcut : Cutting cut) (hne : cut.lexeme.text ≠ [])
    (hapart : Apart before (cut.lexeme.text ++ cut.rest))
    (h : Tiles (before ++ cut.lexeme.text) tokens cut.rest) :
    Tiles before (cut.lexeme.token?.toList ++ tokens) (cut.lexeme.text ++ cut.rest) := by
  cases hcut with
  | blank hne hblank => exact h.skip (.blank hne hblank)
  | comment hcomment =>
      obtain hline | hblock := hcomment
      · exact h.skip (.lineComment hline)
      · exact h.skip (.blockComment hblock)
  | quoted hquoted => exact h.prepend hne (.inl (by simpa using hquoted))
  | number hstart _ => exact h.prepend hne (.inr (by simpa using hstart))
  | @word text rest hall hstart hfollows =>
      have hwhole : IsWholeWord before text rest :=
        (Cutting.word hall hstart hfollows).isWholeWord hapart
      refine h.prepend hne ?_
      -- reserved or not, it is the same word
      split <;> simpa [Token.Fits] using hwhole
  | mark hblank hword => exact h.prepend hne ⟨_, by simp, hblank, hword⟩

/-- **The tokens of some code tile it,** whatever of no word stands before it. -/
lemma tiles_lexemes (code : List Char) :
    ∀ before, Apart before code → Tiles before ((lexemes code).filterMap Lexeme.token?) code := by
  fun_induction lexemes code with
  | case1 =>
      intro before _
      exact .gap .nil
  | case2 c cs ih =>
      intro before hapart
      have hcut := cutting_firstLexeme c cs
      have hrest := ih (before ++ (firstLexeme c cs).lexeme.text) hcut.apart
      rw [← firstLexeme_append c cs] at hapart ⊢
      have htiles := hrest.extend hcut (firstLexeme_ne_nil c cs) hapart
      rw [List.filterMap_cons]
      cases htoken : (firstLexeme c cs).lexeme.token? <;> simpa [htoken] using htiles

/-- **The tokenizer loses nothing.**  The expression for lexemes has matches in any code, the only
ones there are; one after another they are the code.  Those that are tokens tile it: between them
stand white space and comments, and each is what its kind says. -/
theorem tokenize_tiles (code : String) :
    ∃ found, (∀ other, Finds code.toList other ↔ other = found)
      ∧ (found.map Lexeme.text).flatten = code.toList
      ∧ found.filterMap Lexeme.token? = tokenize code
      ∧ Tiles [] (tokenize code) code.toList :=
  ⟨lexemes code.toList, fun _ => finds_iff, flatten_lexemes code.toList, rfl,
    tiles_lexemes code.toList [] (.inl (by simp))⟩

end Tilings

end GrammarConversion.Code
