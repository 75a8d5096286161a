import GrammarConversion.Proofs.Reading.Language
import GrammarConversion.Text.Blank

/-!
# From the text of a rule body to its tokens

`scan` cuts a text into the tokens of `GrammarConversion.Reading.Tree`.  White space parts tokens
and is dropped, six characters are tokens of their own, and the rest is read by a reader of atoms,
which is given the text from the atom on and hands back what is left.

`Denotes` is the statement that all of this is made for: **a text has exactly one reading, and that
reading has a given language.**

A text is scanned piece by piece.  `Shows` says of a piece which tokens it stands for, whatever
comes after it, so long as no character does that would make a name at its end longer
(`BreaksName`).
-/

namespace GrammarConversion.Reading

variable {α σ : Type}

/-! ## Characters -/

/-- White space between tokens. -/
def isSpace (c : Char) : Bool :=
  c ∈ [' ', '\t', '\r', '\n', '\x0c']

/-- The token that a character is by itself. -/
def markToken? : Char → Option (Token α)
  | '(' => some .opening
  | ')' => some .closing
  | '|' => some .bar
  | '?' => some (.suffix .zeroOrOne)
  | '*' => some (.suffix .zeroOrMore)
  | '+' => some (.suffix .oneOrMore)
  | _ => none

/-- A character of a name: a letter, a digit, one of `_` and `$`, or any character beyond the basic
ones that is not blank. -/
def isNameChar (c : Char) : Bool :=
  c.isAlphanum || c == '_' || c == '$' || (decide (128 ≤ c.toNat) && !Text.isBlank c)

/-- A text that is a name. -/
def IsName (text : String) : Prop :=
  text.toList ≠ [] ∧ ∀ c ∈ text.toList, isNameChar c = true

instance (text : String) : Decidable (IsName text) :=
  decidable_of_iff (text.toList ≠ [] ∧ text.toList.all isNameChar = true) (by
    rw [IsName, List.all_eq_true])

/-- Reads a name, which is as long as it can be. -/
def readName (cs : List Char) : Option (String × List Char) :=
  match cs.takeWhile isNameChar with
  | [] => none
  | name => some (String.ofList name, cs.dropWhile isNameChar)

/-! ## Scanning -/

/-- **The tokens of a text,** where `readAtom` reads an atom and hands back the rest.  An atom takes
at least one character. -/
def scan (readAtom : List Char → Option (α × List Char)) : List Char → Option (List (Token α))
  | [] => some []
  | c :: cs =>
    if isSpace c then scan readAtom cs
    else
      match markToken? c with
      | some token => (scan readAtom cs).map (token :: ·)
      | none =>
        match readAtom (c :: cs) with
        | none => none
        | some (value, rest) =>
          if rest.length ≤ cs.length then (scan readAtom rest).map (.atom value :: ·) else none
termination_by cs => cs.length
decreasing_by all_goals simp <;> omega

/-- A text is read as a tree if its tokens are those of the tree. -/
def Reads (readAtom : List Char → Option (α × List Char)) (text : String) (body : Body α) : Prop :=
  scan readAtom text.toList = some body.tokens

/-- **What a text denotes:** it has exactly one reading, whose language is `words`. -/
def Denotes (readAtom : List Char → Option (α × List Char)) (meaning : α → Language σ)
    (text : String) (words : Language σ) : Prop :=
  (∃! body, Reads readAtom text body) ∧
    ∀ body, Reads readAtom text body → body.language meaning = words

/-- **A text denotes one language only.** -/
lemma Denotes.unique {readAtom : List Char → Option (α × List Char)} {meaning : α → Language σ}
    {text : String} {words words' : Language σ} (h : Denotes readAtom meaning text words)
    (h' : Denotes readAtom meaning text words') : words = words' := by
  rcases h.1 with ⟨body, hread, -⟩
  rw [← h.2 body hread, ← h'.2 body hread]

/-! ## Names -/

/-- What may follow a name. -/
def BreaksName (rest : List Char) : Prop :=
  ∀ c ∈ rest.head?, isNameChar c = false

@[simp]
lemma breaksName_nil : BreaksName [] := by
  intro c hc
  simp at hc

@[simp]
lemma breaksName_cons (c : Char) (cs : List Char) :
    BreaksName (c :: cs) ↔ isNameChar c = false := by
  simp [BreaksName]

lemma takeWhile_of_breaksName {rest : List Char} (h : BreaksName rest) :
    rest.takeWhile isNameChar = [] := by
  cases rest with
  | nil => rfl
  | cons c cs => rw [List.takeWhile_cons_of_neg (by simp [(breaksName_cons c cs).mp h])]

lemma dropWhile_of_breaksName {rest : List Char} (h : BreaksName rest) :
    rest.dropWhile isNameChar = rest := by
  cases rest with
  | nil => rfl
  | cons c cs => rw [List.dropWhile_cons_of_neg (by simp [(breaksName_cons c cs).mp h])]

/-- **A name is read back** before anything that may follow it. -/
lemma readName_append {name : String} (hname : IsName name) {rest : List Char}
    (hrest : BreaksName rest) : readName (name.toList ++ rest) = some (name, rest) := by
  rcases hname with ⟨hne, hall⟩
  have htake : (name.toList ++ rest).takeWhile isNameChar = name.toList := by
    rw [List.takeWhile_append_of_pos hall, takeWhile_of_breaksName hrest, List.append_nil]
  have hdrop : (name.toList ++ rest).dropWhile isNameChar = rest := by
    rw [List.dropWhile_append_of_pos hall, dropWhile_of_breaksName hrest]
  rw [readName, htake, hdrop]
  split
  · exact absurd ‹name.toList = []› hne
  · simp

lemma isSpace_eq_false_of_isNameChar {c : Char} (h : isNameChar c = true) : isSpace c = false := by
  by_contra hspace
  have hcases : c = ' ' ∨ c = '\t' ∨ c = '\r' ∨ c = '\n' ∨ c = '\x0c' := by
    simpa only [isSpace, Bool.not_eq_false, decide_eq_true_eq, List.mem_cons, List.not_mem_nil,
      or_false] using hspace
  rcases hcases with rfl | rfl | rfl | rfl | rfl <;> exact absurd h (by decide)

lemma breaks_of_markToken? {c : Char} {token : Token α} (h : markToken? c = some token) :
    isSpace c = false ∧ isNameChar c = false := by
  unfold markToken? at h
  split at h
  case h_7 => exact absurd h (by simp)
  all_goals decide

lemma markToken?_eq_none_of_isNameChar {c : Char} (h : isNameChar c = true) :
    (markToken? c : Option (Token α)) = none := by
  cases hc : (markToken? c : Option (Token α)) with
  | none => rfl
  | some token =>
      rw [(breaks_of_markToken? hc).2] at h
      exact Bool.noConfusion h

/-! ## Pieces of a text -/

section Pieces

variable (readAtom : List Char → Option (α × List Char))

/-- **The tokens that a piece of a text stands for,** whatever comes after it. -/
def Shows (piece : List Char) (tokens : List (Token α)) : Prop :=
  ∀ rest, BreaksName rest →
    scan readAtom (piece ++ rest) = (scan readAtom rest).map (tokens ++ ·)

variable {readAtom}

lemma shows_nil : Shows readAtom [] [] := by
  intro rest _
  simp

/-- A character that is a token of its own ends the piece before it. -/
lemma Shows.append_mark {before after : List Char} {tokens tokens' : List (Token α)} {c : Char}
    {token : Token α} (hc : markToken? c = some token) (hbefore : Shows readAtom before tokens)
    (hafter : Shows readAtom after tokens') :
    Shows readAtom (before ++ c :: after) (tokens ++ token :: tokens') := by
  intro rest hrest
  rcases breaks_of_markToken? hc with ⟨hspace, hbreak⟩
  have hstep : scan readAtom (c :: (after ++ rest))
      = (scan readAtom rest).map (token :: tokens' ++ ·) := by
    rw [scan, if_neg (by simp [hspace]), hc]
    simp [hafter rest hrest, Function.comp_def]
  rw [List.append_assoc, List.cons_append,
    hbefore (c :: (after ++ rest)) ((breaksName_cons _ _).mpr hbreak), hstep]
  simp [Function.comp_def]

/-- A space ends the piece before it and leaves nothing behind. -/
lemma Shows.append_space {before after : List Char} {tokens tokens' : List (Token α)}
    (hbefore : Shows readAtom before tokens) (hafter : Shows readAtom after tokens') :
    Shows readAtom (before ++ ' ' :: after) (tokens ++ tokens') := by
  intro rest hrest
  have hstep : scan readAtom (' ' :: (after ++ rest))
      = (scan readAtom rest).map (tokens' ++ ·) := by
    rw [scan, if_pos (by decide), hafter rest hrest]
  rw [List.append_assoc, List.cons_append,
    hbefore (' ' :: (after ++ rest)) ((breaksName_cons _ _).mpr (by decide)), hstep]
  simp [Function.comp_def]

lemma shows_atom {piece : List Char} {value : α} {c : Char} {cs : List Char}
    (hpiece : piece = c :: cs) (hspace : isSpace c = false)
    (hmark : (markToken? c : Option (Token α)) = none)
    (hread : ∀ rest, BreaksName rest → readAtom (piece ++ rest) = some (value, rest)) :
    Shows readAtom piece [.atom value] := by
  intro rest hrest
  have h := hread rest hrest
  subst hpiece
  rw [List.cons_append] at h ⊢
  rw [scan, if_neg (by simp [hspace]), hmark]
  simp [h]

/-- A name is an atom where the reader of atoms reads it as a name. -/
lemma shows_name {name : String} {value : α} (hname : IsName name)
    (hread : ∀ rest, BreaksName rest → readAtom (name.toList ++ rest) = some (value, rest)) :
    Shows readAtom name.toList [.atom value] := by
  rcases List.exists_cons_of_ne_nil hname.1 with ⟨c, cs, hcons⟩
  have hc : isNameChar c = true := hname.2 c (by simp [hcons])
  exact shows_atom hcons (isSpace_eq_false_of_isNameChar hc) (markToken?_eq_none_of_isNameChar hc)
    hread

/-- A block in parentheses, with the mark of its suffix if it has one. -/
lemma Shows.block {piece : List Char} {tokens : List (Token α)} (h : Shows readAtom piece tokens) :
    Shows readAtom ('(' :: piece ++ [')']) (.opening :: (tokens ++ [.closing])) := by
  have hopen : Shows readAtom ([] ++ '(' :: piece) ([] ++ .opening :: tokens) :=
    shows_nil.append_mark rfl h
  simpa using hopen.append_mark (show markToken? ')' = some _ from rfl) shows_nil

/-- **Texts with spaces between them show sequences in a row.** -/
lemma shows_intercalate_space {texts : List String} {sequences : List (Sequence α)}
    (h : List.Forall₂ (fun text sequence => Shows readAtom text.toList sequence.tokens) texts
      sequences) :
    Shows readAtom (" ".intercalate texts).toList (joined sequences).tokens := by
  induction h with
  | nil => exact shows_nil
  | @cons text sequence texts sequences hfirst hothers ih =>
      cases hothers with
      | nil => simpa [joined, Sequence.tokens] using hfirst
      | cons hsecond hrest =>
          rw [String.intercalate_cons_cons, joined, Sequence.tokens_append]
          simpa using hfirst.append_space ih

/-- **Texts with bars between them show alternatives.** -/
lemma shows_intercalate_bar {texts : List String} {sequences : List (Sequence α)}
    (h : List.Forall₂ (fun text sequence => Shows readAtom text.toList sequence.tokens) texts
      sequences) :
    Shows readAtom (" | ".intercalate texts).toList (parted sequences).tokens := by
  induction h with
  | nil => exact shows_nil
  | @cons text sequence texts sequences hfirst hothers ih =>
      cases hothers with
      | nil => simpa [parted, Body.tokens] using hfirst
      | cons hsecond hrest =>
          -- a space, the bar, and a space again
          have hbar := (hfirst.append_space shows_nil).append_mark
            (show markToken? '|' = some .bar from rfl) (shows_nil.append_space ih)
          rw [String.intercalate_cons_cons, parted, Body.tokens]
          simpa using hbar

/-- **A text that shows the tokens of a tree denotes the language of the tree.** -/
lemma Shows.denotes {text : String} {body : Body α} {meaning : α → Language σ}
    (h : Shows readAtom text.toList body.tokens) :
    Denotes readAtom meaning text (body.language meaning) := by
  have hread : Reads readAtom text body := by
    have hscan := h [] breaksName_nil
    simpa [Reads, scan] using hscan
  have hunique : ∀ other, Reads readAtom text other → other = body := by
    intro other hother
    refine Body.eq_of_tokens_eq (Option.some.inj ?_)
    rw [← show scan readAtom text.toList = some other.tokens from hother]
    exact hread
  refine ⟨⟨body, hread, hunique⟩, ?_⟩
  intro other hother
  rw [hunique other hother]

/-- A text that shows one atom denotes the language of the atom. -/
lemma Shows.denotes_atom {text : String} {value : α} (h : Shows readAtom text.toList [.atom value])
    (meaning : α → Language σ) : Denotes readAtom meaning text (meaning value) := by
  have hbody : Shows readAtom text.toList (Body.last (.single (.atom value none))).tokens := by
    simpa [Body.tokens, Part.tokens, suffixTokens] using h
  have hdenotes : Denotes readAtom meaning text _ := hbody.denotes
  rwa [Body.language, Sequence.language_single, Part.language, repeated] at hdenotes

end Pieces

end GrammarConversion.Reading
