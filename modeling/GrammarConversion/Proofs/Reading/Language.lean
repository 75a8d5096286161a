import Mathlib.Computability.Language
import GrammarConversion.Proofs.Reading.Tree

/-!
# Languages of rule bodies

The language of a tree of `GrammarConversion.Reading.Tree`, once each atom has a language: bars are
unions, juxtaposition is concatenation, and the suffixes `?`, `*` and `+` are closures.

Sequences and bodies are mostly built from lists of smaller trees.  `Sequence.append`, `joined` and
`parted` build them, and each comes with its tokens and with its language.
-/

namespace GrammarConversion.Reading

open Computability

variable {α σ : Type}

@[simp]
lemma mem_singleton_word (word other : List σ) : other ∈ ({word} : Language σ) ↔ other = word :=
  Iff.rfl

/-! ## Repetition -/

/-- The words of a repeated part. -/
def Suffix.language : Suffix → Language σ → Language σ
  | .zeroOrOne, words => 1 + words
  | .zeroOrMore, words => words∗
  | .oneOrMore, words => words * words∗

/-- The words of a part that may have a suffix. -/
def repeated : Option Suffix → Language σ → Language σ
  | none, words => words
  | some mark, words => mark.language words

/-- **Repeating the empty word gives the empty word,** whatever the suffix. -/
lemma Suffix.language_one (mark : Suffix) : mark.language (1 : Language σ) = 1 := by
  cases mark with
  | zeroOrOne => exact Language.add_self 1
  | zeroOrMore => exact kstar_one
  | oneOrMore =>
      show (1 : Language σ) * 1∗ = 1
      rw [kstar_one, one_mul]

/-! ## The language of a tree -/

mutual

/-- The words of a body. -/
def Body.language (meaning : α → Language σ) : Body α → Language σ
  | .last sequence => sequence.language meaning
  | .either first others => first.language meaning + others.language meaning

/-- The words of a sequence. -/
def Sequence.language (meaning : α → Language σ) : Sequence α → Language σ
  | .empty => 1
  | .cons part rest => part.language meaning * rest.language meaning

/-- The words of a part. -/
def Part.language (meaning : α → Language σ) : Part α → Language σ
  | .atom value suffix => repeated suffix (meaning value)
  | .block body suffix => repeated suffix (body.language meaning)

end

/-! ## Building trees -/

/-- A sequence of one part. -/
def Sequence.single (part : Part α) : Sequence α :=
  .cons part .empty

/-- One sequence after another. -/
def Sequence.append : Sequence α → Sequence α → Sequence α
  | .empty, other => other
  | .cons part rest, other => .cons part (rest.append other)

/-- Several sequences, one after another. -/
def joined : List (Sequence α) → Sequence α
  | [] => .empty
  | sequence :: sequences => sequence.append (joined sequences)

/-- Several sequences as alternatives; no sequence counts as an empty one. -/
def parted : List (Sequence α) → Body α
  | [] => .last .empty
  | [sequence] => .last sequence
  | first :: second :: others => .either first (parted (second :: others))

@[simp]
lemma Sequence.tokens_single (part : Part α) : (Sequence.single part).tokens = part.tokens := by
  simp [single, Sequence.tokens]

@[simp]
lemma Sequence.language_single (meaning : α → Language σ) (part : Part α) :
    (Sequence.single part).language meaning = part.language meaning := by
  simp [single, Sequence.language]

@[simp]
lemma Sequence.tokens_append : ∀ first second : Sequence α,
    (first.append second).tokens = first.tokens ++ second.tokens
  | .empty, _ => by simp [append, Sequence.tokens]
  | .cons part rest, second => by
      simp [append, Sequence.tokens, Sequence.tokens_append rest second]

@[simp]
lemma Sequence.language_append (meaning : α → Language σ) : ∀ first second : Sequence α,
    (first.append second).language meaning = first.language meaning * second.language meaning
  | .empty, second => by rw [append, Sequence.language, one_mul]
  | .cons part rest, second => by
      rw [append, Sequence.language, Sequence.language_append meaning rest second,
        Sequence.language, mul_assoc]

/-- **Sequences in a row have the product of their languages.** -/
lemma language_joined (meaning : α → Language σ) (sequences : List (Sequence α)) :
    (joined sequences).language meaning
      = (sequences.map (Sequence.language meaning)).prod := by
  induction sequences with
  | nil => rfl
  | cons sequence sequences ih =>
      rw [joined, Sequence.language_append, ih, List.map_cons, List.prod_cons]

/-- **Alternatives have the union of their languages.** -/
lemma language_parted (meaning : α → Language σ) :
    ∀ sequences : List (Sequence α), sequences ≠ [] →
      (parted sequences).language meaning = (sequences.map (Sequence.language meaning)).sum
  | [], h => absurd rfl h
  | [sequence], _ => by simp [parted, Body.language]
  | first :: second :: others, _ => by
      rw [parted, Body.language, language_parted meaning (second :: others) (by simp),
        ← List.sum_cons, ← List.map_cons]

end GrammarConversion.Reading
