import GrammarConversion.Antlr.Name
import GrammarConversion.Model.Regex
import GrammarConversion.Proofs.LexerRule.Atom

/-!
# Languages of regular expressions

A regular expression stands for texts, words of characters.  A reference stands for the texts of the
rule that it names, whatever these are: the language of an expression is given for every
interpretation `rules` of the names of rules.

`Regex.IsPlain` names the expressions that say which texts they match: the ends of their ranges are
single characters, and no part of them is empty, apart from the complement of nothing.
-/

namespace GrammarConversion.Model.Regex

open Antlr
open Computability
open Reading

/-! ## Characters -/

/-- The first and the last of the characters that a descriptor stands for, if each of its ends is
one character. -/
def range? : Regex → Option (Char × Char)
  | .character char =>
    match char.toList with
    | [c] => some (c, c)
    | _ => none
  | .range left right =>
    match left.toList, right.toList with
    | [first], [last] => some (first, last)
    | _, _ => none
  | _ => none

/-- The ranges of a character list. -/
def ranges (descriptors : List Regex) : List (Char × Char) :=
  descriptors.filterMap range?

lemma ranges_cons {descriptor : Regex} {range : Char × Char} (h : descriptor.range? = some range)
    (descriptors : List Regex) : ranges (descriptor :: descriptors) = range :: ranges descriptors :=
  List.filterMap_cons_some h

lemma of_range?_character {char : String} {range : Char × Char}
    (h : (Regex.character char).range? = some range) :
    ∃ c, char.toList = [c] ∧ range = (c, c) := by
  rw [range?] at h
  split at h
  · rename_i c hc
    exact ⟨c, hc, (Option.some.inj h).symm⟩
  · cases h

lemma of_range?_range {left right : String} {range : Char × Char}
    (h : (Regex.range left right).range? = some range) :
    ∃ first last, left.toList = [first] ∧ right.toList = [last] ∧ range = (first, last) := by
  rw [range?] at h
  split at h
  · rename_i first last hfirst hlast
    exact ⟨first, last, hfirst, hlast, (Option.some.inj h).symm⟩
  · cases h

/-! ## Texts -/

mutual

/-- **The texts of a regular expression.**  Nodes that no lexer rule can be made of have none. -/
def language (rules : String → Language Char) : Regex → Language Char
  | .charList descriptors negated =>
    if negated.getD false then oneOf fun c => ¬LiesIn (ranges descriptors) c
    else oneOf (LiesIn (ranges descriptors))
  | .literal image => {image.toList}
  | .sequence units => productOf rules units
  | .choice alternatives => unionOf rules alternatives
  | .zeroOrMore operand => (operand.language rules)∗
  | .oneOrMore operand => operand.language rules * (operand.language rules)∗
  | .zeroOrOne operand => 1 + operand.language rules
  | .reference label => rules (ruleName label)
  | .character _ => 0
  | .range _ _ => 0
  | .repetition _ _ _ => 0
  | .endOfFile => 0
  | .unknown => 0
  | .foreign _ => 0

/-- The texts of expressions one after another. -/
def productOf (rules : String → Language Char) : List Regex → Language Char
  | [] => 1
  | unit :: units => unit.language rules * productOf rules units

/-- The texts of alternative expressions. -/
def unionOf (rules : String → Language Char) : List Regex → Language Char
  | [] => 0
  | unit :: units => unit.language rules + unionOf rules units

end

lemma productOf_eq (rules : String → Language Char) (units : List Regex) :
    productOf rules units = (units.map (language rules)).prod := by
  induction units with
  | nil => rfl
  | cons unit units ih => rw [productOf, ih, List.map_cons, List.prod_cons]

lemma unionOf_eq (rules : String → Language Char) (alternatives : List Regex) :
    unionOf rules alternatives = (alternatives.map (language rules)).sum := by
  induction alternatives with
  | nil => rfl
  | cons unit alternatives ih => rw [unionOf, ih, List.map_cons, List.sum_cons]

/-! ## Plain expressions -/

/-- **A regular expression that says which texts it matches.** -/
inductive IsPlain : Regex → Prop
  | charList {descriptors : List Regex} {negated : Option Bool}
      (hall : ∀ descriptor ∈ descriptors, ∃ range, descriptor.range? = some range)
      (hne : descriptors = [] → negated.getD false = true) :
      IsPlain (.charList descriptors negated)
  | literal {image : String} (hne : image ≠ "") : IsPlain (.literal image)
  | sequence {units : List Regex} (hne : units ≠ []) (hall : ∀ unit ∈ units, IsPlain unit) :
      IsPlain (.sequence units)
  | choice {alternatives : List Regex} (hne : alternatives ≠ [])
      (hall : ∀ unit ∈ alternatives, IsPlain unit) : IsPlain (.choice alternatives)
  | zeroOrMore {operand : Regex} (h : IsPlain operand) : IsPlain (.zeroOrMore operand)
  | oneOrMore {operand : Regex} (h : IsPlain operand) : IsPlain (.oneOrMore operand)
  | zeroOrOne {operand : Regex} (h : IsPlain operand) : IsPlain (.zeroOrOne operand)
  | reference {label : String} (hname : IsName label) : IsPlain (.reference label)

lemma IsPlain.isRegularExpression {node : Regex} (h : node.IsPlain) :
    node.isRegularExpression = true := by
  cases h <;> rfl

lemma isDescriptor_of_range? {descriptor : Regex} {range : Char × Char}
    (h : descriptor.range? = some range) : descriptor.isDescriptor = true := by
  cases descriptor with
  | character char => rfl
  | range left right => rfl
  | _ => exact absurd h (by simp [range?])

end GrammarConversion.Model.Regex
