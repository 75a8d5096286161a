import Mathlib.Tactic.Lemma

/-!
# Rule bodies as ANTLR reads them

The body of a rule is a list of tokens: atoms, parentheses, bars and suffixes.  A bar binds less
than juxtaposition, and juxtaposition less than a suffix, which belongs to the atom or to the block
right before it.  `Body`, `Sequence` and `Part` are the trees of these three levels, and the tokens
of a tree are what it is read from.

What an atom is depends on the kind of the rule: in a parser rule it is a name, in a lexer rule it
may be a literal or a set too.  Nothing here looks into an atom.

**`Body.eq_of_tokens_eq`: a list of tokens is read in one way only.**  It is proved for a tree that
some other tokens follow, which is what the induction needs; the tokens that may follow a tree of
each level are named by `EndsPart`, `EndsSequence` and `EndsBody`.
-/

namespace GrammarConversion.Reading

/-- How often an atom or a block is repeated. -/
inductive Suffix where
  | zeroOrOne
  | zeroOrMore
  | oneOrMore
  deriving DecidableEq, Repr

/-- A token of a rule body. -/
inductive Token (α : Type) where
  | atom (value : α)
  | opening
  | closing
  | bar
  | suffix (mark : Suffix)
  deriving DecidableEq, Repr

mutual

/-- Alternatives with bars between them. -/
inductive Body (α : Type) where
  | last (sequence : Sequence α)
  | either (first : Sequence α) (others : Body α)

/-- Parts one after another. -/
inductive Sequence (α : Type) where
  | empty
  | cons (part : Part α) (rest : Sequence α)

/-- An atom or a block in parentheses, with at most one suffix. -/
inductive Part (α : Type) where
  | atom (value : α) (suffix : Option Suffix)
  | block (body : Body α) (suffix : Option Suffix)

end

variable {α : Type}

/-- The tokens of a suffix that may be absent. -/
def suffixTokens : Option Suffix → List (Token α)
  | none => []
  | some mark => [.suffix mark]

mutual

/-- The tokens of a body. -/
def Body.tokens : Body α → List (Token α)
  | .last sequence => sequence.tokens
  | .either first others => first.tokens ++ .bar :: others.tokens

/-- The tokens of a sequence. -/
def Sequence.tokens : Sequence α → List (Token α)
  | .empty => []
  | .cons part rest => part.tokens ++ rest.tokens

/-- The tokens of a part. -/
def Part.tokens : Part α → List (Token α)
  | .atom value suffix => .atom value :: suffixTokens suffix
  | .block body suffix => .opening :: (body.tokens ++ .closing :: suffixTokens suffix)

end

/-! ## What may follow a tree -/

/-- Tokens that may follow a part: no suffix comes first, since it would belong to the part. -/
def EndsPart : List (Token α) → Prop
  | .suffix _ :: _ => False
  | _ => True

/-- Tokens that may follow a sequence: nothing comes first that would go on with it. -/
def EndsSequence : List (Token α) → Prop
  | [] => True
  | .bar :: _ => True
  | .closing :: _ => True
  | _ => False

/-- Tokens that may follow a body. -/
def EndsBody : List (Token α) → Prop
  | [] => True
  | .closing :: _ => True
  | _ => False

lemma EndsBody.endsSequence {rest : List (Token α)} (h : EndsBody rest) : EndsSequence rest := by
  cases rest with
  | nil => trivial
  | cons token rest =>
      cases token with
      | closing => trivial
      | _ => exact absurd h id

lemma EndsSequence.endsPart {rest : List (Token α)} (h : EndsSequence rest) : EndsPart rest := by
  cases rest with
  | nil => trivial
  | cons token rest =>
      cases token with
      | suffix => exact absurd h id
      | _ => trivial

/-- A part never begins with a suffix, so a sequence may follow any part. -/
lemma Sequence.endsPart_tokens_append (sequence : Sequence α) {rest : List (Token α)}
    (h : EndsPart rest) : EndsPart (sequence.tokens ++ rest) := by
  cases sequence with
  | empty => exact h
  | cons part others => cases part <;> trivial

/-- A sequence that is not empty begins with a token that could not follow a sequence. -/
lemma Part.not_endsSequence_tokens_append (part : Part α) (rest : List (Token α)) :
    ¬EndsSequence (part.tokens ++ rest) := by
  cases part <;> exact id

/-! ## A list of tokens has one reading -/

lemma suffixTokens_append_inj {first second : Option Suffix} {rest rest' : List (Token α)}
    (h : suffixTokens first ++ rest = suffixTokens second ++ rest')
    (hrest : EndsPart rest) (hrest' : EndsPart rest') : first = second ∧ rest = rest' := by
  cases first with
  | none =>
      cases second with
      | none => exact ⟨rfl, h⟩
      | some mark =>
          simp only [suffixTokens, List.nil_append, List.cons_append] at h
          subst h
          exact absurd hrest id
  | some mark =>
      cases second with
      | none =>
          simp only [suffixTokens, List.nil_append, List.cons_append] at h
          subst h
          exact absurd hrest' id
      | some mark' =>
          simp only [suffixTokens, List.cons_append, List.nil_append, List.cons.injEq,
            Token.suffix.injEq] at h
          exact ⟨congrArg some h.1, h.2⟩

mutual

lemma Body.tokens_append_inj : ∀ (body body' : Body α) {rest rest' : List (Token α)},
    body.tokens ++ rest = body'.tokens ++ rest' → EndsBody rest → EndsBody rest' →
      body = body' ∧ rest = rest'
  | .last sequence, .last sequence', _, _, h, hr, hr' => by
      obtain ⟨rfl, hrest⟩ :=
        Sequence.tokens_append_inj sequence sequence' h hr.endsSequence hr'.endsSequence
      exact ⟨rfl, hrest⟩
  | .last sequence, .either first others, _, _, h, hr, _ => by
      simp only [Body.tokens, List.append_assoc, List.cons_append] at h
      rcases Sequence.tokens_append_inj sequence first h hr.endsSequence trivial with ⟨-, rfl⟩
      exact absurd hr id
  | .either first others, .last sequence, _, _, h, _, hr' => by
      simp only [Body.tokens, List.append_assoc, List.cons_append] at h
      rcases Sequence.tokens_append_inj first sequence h trivial hr'.endsSequence with ⟨-, rfl⟩
      exact absurd hr' id
  | .either first others, .either first' others', _, _, h, hr, hr' => by
      simp only [Body.tokens, List.append_assoc, List.cons_append] at h
      rcases Sequence.tokens_append_inj first first' h trivial trivial with ⟨rfl, hothers⟩
      obtain ⟨rfl, hrest⟩ :=
        Body.tokens_append_inj others others' (List.cons.inj hothers).2 hr hr'
      exact ⟨rfl, hrest⟩

lemma Sequence.tokens_append_inj :
    ∀ (sequence sequence' : Sequence α) {rest rest' : List (Token α)},
      sequence.tokens ++ rest = sequence'.tokens ++ rest' →
        EndsSequence rest → EndsSequence rest' → sequence = sequence' ∧ rest = rest'
  | .empty, .empty, _, _, h, _, _ => ⟨rfl, h⟩
  | .empty, .cons part others, _, _, h, hr, _ => by
      simp only [Sequence.tokens, List.nil_append, List.append_assoc] at h
      subst h
      exact absurd hr (part.not_endsSequence_tokens_append _)
  | .cons part others, .empty, _, _, h, _, hr' => by
      simp only [Sequence.tokens, List.nil_append, List.append_assoc] at h
      subst h
      exact absurd hr' (part.not_endsSequence_tokens_append _)
  | .cons part others, .cons part' others', _, _, h, hr, hr' => by
      simp only [Sequence.tokens, List.append_assoc] at h
      obtain ⟨rfl, hothers⟩ := Part.tokens_append_inj part part' h
        (others.endsPart_tokens_append hr.endsPart) (others'.endsPart_tokens_append hr'.endsPart)
      rcases Sequence.tokens_append_inj others others' hothers hr hr' with ⟨rfl, hrest⟩
      exact ⟨rfl, hrest⟩

lemma Part.tokens_append_inj : ∀ (part part' : Part α) {rest rest' : List (Token α)},
    part.tokens ++ rest = part'.tokens ++ rest' → EndsPart rest → EndsPart rest' →
      part = part' ∧ rest = rest'
  | .atom value suffix, .atom value' suffix', _, _, h, hr, hr' => by
      simp only [Part.tokens, List.cons_append, List.cons.injEq, Token.atom.injEq] at h
      rcases h with ⟨rfl, h⟩
      rcases suffixTokens_append_inj h hr hr' with ⟨rfl, hrest⟩
      exact ⟨rfl, hrest⟩
  | .atom value suffix, .block body suffix', _, _, h, _, _ => by
      simp [Part.tokens] at h
  | .block body suffix, .atom value suffix', _, _, h, _, _ => by
      simp [Part.tokens] at h
  | .block body suffix, .block body' suffix', _, _, h, hr, hr' => by
      simp only [Part.tokens, List.cons_append, List.append_assoc, List.cons.injEq, true_and] at h
      -- the closing parenthesis is what ends the body inside
      rcases Body.tokens_append_inj body body' h trivial trivial with ⟨rfl, hafter⟩
      rcases suffixTokens_append_inj (List.cons.inj hafter).2 hr hr' with ⟨rfl, hrest⟩
      exact ⟨rfl, hrest⟩

end

/-- **A list of tokens is read in one way only.** -/
theorem Body.eq_of_tokens_eq {body body' : Body α} (h : body.tokens = body'.tokens) :
    body = body' := by
  have happend : body.tokens ++ [] = body'.tokens ++ [] := by rw [h]
  exact (Body.tokens_append_inj body body' happend trivial trivial).1

end GrammarConversion.Reading
