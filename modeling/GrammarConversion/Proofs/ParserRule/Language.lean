import GrammarConversion.Antlr.Component
import GrammarConversion.Proofs.Reading.Language

/-!
# Languages of the parts of parser rules

A part of a parser rule stands for words of symbols: an element for its one symbol, a sequence and a
choice for the concatenation and for the union of their children, and a quantifier repeats what it
is put on.

**`Component.language_quantified`: applying a quantifier applies it to the language,** whether the
part can take it itself or has to be wrapped first.
-/

namespace GrammarConversion.Antlr

open Reading

/-- The suffix that a quantifier is, if it is one of the three that repeat. -/
def Quantifier.suffix? : Quantifier → Option Suffix
  | .zeroOrOne => some .zeroOrOne
  | .zeroOrMore => some .zeroOrMore
  | .oneOrMore => some .oneOrMore
  | .verbatim _ => none

/-- The words of a part under a quantifier.  A mark that is none of the three repeats nothing. -/
def quantifiedWords (q : Option Quantifier) (words : Language String) : Language String :=
  repeated (q.bind Quantifier.suffix?) words

@[simp]
lemma quantifiedWords_none (words : Language String) : quantifiedWords none words = words := rfl

lemma quantifiedWords_one (q : Option Quantifier) : quantifiedWords q 1 = 1 := by
  rw [quantifiedWords]
  cases q.bind Quantifier.suffix? with
  | none => rfl
  | some mark => exact mark.language_one

namespace Component

mutual

/-- **The words of a part of a parser rule.** -/
def language : Component → Language String
  | .element text q => quantifiedWords q {[text]}
  | .sequence children q => quantifiedWords q (productOf children)
  | .choice children q => quantifiedWords q (unionOf children)
  | .unknown q => quantifiedWords q 0

/-- The words of parts one after another. -/
def productOf : List Component → Language String
  | [] => 1
  | child :: children => child.language * productOf children

/-- The words of alternative parts. -/
def unionOf : List Component → Language String
  | [] => 0
  | child :: children => child.language + unionOf children

end

lemma productOf_eq (children : List Component) :
    productOf children = (children.map language).prod := by
  induction children with
  | nil => rfl
  | cons child children ih => rw [productOf, ih, List.map_cons, List.prod_cons]

lemma unionOf_eq (children : List Component) :
    unionOf children = (children.map language).sum := by
  induction children with
  | nil => rfl
  | cons child children ih => rw [unionOf, ih, List.map_cons, List.sum_cons]

lemma language_withQuantifier (q : Quantifier) {part : Component} (h : part.quantifier = none) :
    (part.withQuantifier (some q)).language = quantifiedWords (some q) part.language := by
  cases part <;> cases h <;> simp [withQuantifier, language]

/-- **The language of a quantified part** is the language of the part, quantified. -/
lemma language_quantified (part : Component) (q : Option Quantifier) :
    (part.quantified q).language = quantifiedWords q part.language := by
  cases q with
  | none => rfl
  | some q =>
      rw [quantified]
      split
      · exact language_withQuantifier q ‹part.quantifier = none›
      · simp [language, productOf]

end Component

end GrammarConversion.Antlr
