import GrammarConversion.Proofs.ParserRule.References

/-!
# Offences of expansions

An expansion is refused for what stands at one place of its tree: a choice of less than two
alternatives, a part that is no expansion, an expansion of no known kind, or a literal that no token
matches.  A tree may have several such offences, also in parts that would be dropped, and only one
of them is reported.

Checks and conversions alternate, and they do so in the order of the walk: a node is looked at
before its parts, and a part is converted to its end before the next one is looked at.  So the
conversion of a tree comes to what the first offence of its walk says (`comesTo_parserBody`).

**`parserBody_error_iff`: an expansion is refused if and only if its tree has an offence, and then
for the first one,** with the name of the rule it belongs to.
-/

namespace GrammarConversion.Model

open Conversion

/-- **What is wrong at a place,** apart from what is wrong at the places below it. -/
def Place.offence? (scope : Scope) (rule : Option String) (place : Place) :
    Option ConversionError :=
  match place.node with
  | .choice branches =>
    if branches.length < 2
    then some (.malformed "Choice" (.tooFewAlternatives branches.length) rule) else none
  | .literal image =>
    if scope.lexer.ruleForImage? image = none then some (.unresolvedLiteral image rule) else none
  | .unknown => some (.unsupported "Expansion" rule)
  | .foreign value =>
    place.parent.map fun kind => .malformed kind (.notExpansion value.typeName) rule
  | _ => none

lemma Place.rule_of_offence? {scope : Scope} {rule : Option String} {place : Place}
    {error : ConversionError} (h : place.offence? scope rule = some error) :
    error.rule = rule := by
  rw [offence?] at h
  split at h
  · split at h <;> cases h
    rfl
  · split at h <;> cases h
    rfl
  · cases h
    rfl
  · obtain ⟨kind, -, rfl⟩ := Option.map_eq_some_iff.mp h
    rfl
  · cases h

/-- The first offence that is met at places. -/
def firstOffence? (scope : Scope) (rule : Option String) (places : List Place) :
    Option ConversionError :=
  places.findSome? (Place.offence? scope rule)

end GrammarConversion.Model

namespace GrammarConversion.Conversion

open Antlr
open Model

/-- Whether a result is what an offence makes of it: there is one unless there is an offence, and
the failure is that offence. -/
def ComesTo {α : Type} (offence : Option ConversionError) (result : Except Failure α) : Prop :=
  match offence with
  | none => ∃ value, result = .ok value
  | some error => result = .error (.conversion error)

section Results

variable {α β : Type} {offence : Option ConversionError} {result : Except Failure α}

/-- What comes after a result is offended only if the result is not. -/
lemma ComesTo.bind {later : Option ConversionError} {next : α → Except Failure β}
    (h : ComesTo offence result) (hnext : ∀ value, ComesTo later (next value)) :
    ComesTo (offence.or later) (result >>= next) := by
  cases offence with
  | none =>
      obtain ⟨value, rfl⟩ := h
      exact hnext value
  | some error =>
      obtain rfl : result = .error (.conversion error) := h
      rfl

lemma ComesTo.bind_ok {f : α → β} (h : ComesTo offence result) :
    ComesTo offence (result >>= fun value => .ok (f value)) := by
  have hnext : ∀ value, ComesTo none (Except.ok (f value) : Except Failure β) :=
    fun value => ⟨f value, rfl⟩
  simpa using h.bind hnext

lemma ComesTo.error_iff (h : ComesTo offence result) (failure : Failure) :
    result = .error failure ↔ ∃ error, offence = some error ∧ failure = .conversion error := by
  cases offence with
  | none =>
      obtain ⟨value, rfl⟩ := h
      simp
  | some error =>
      obtain rfl : result = .error (.conversion error) := h
      simp [eq_comm]

end Results

section Offences

variable (scope : Scope) (rule : Option String)

/-- A part is looked at before it is converted; one that is no expansion ends the conversion. -/
lemma comesTo_operandBody {operand : Expansion} (kind : String)
    (h : operand.isExpansion = true →
      ComesTo (firstOffence? scope rule (operand.walk (some kind)))
        (parserBody (scopedContext scope rule) operand)) :
    ComesTo (firstOffence? scope rule (operand.walk (some kind)))
      (operandBody (scopedContext scope rule) kind operand) := by
  rw [operandBody]
  split
  · exact h ‹_›
  · cases operand with
    | foreign value => rfl
    | _ => exact absurd rfl ‹_›

mutual

/-- **The conversion of an expansion comes to the first offence of its walk.**  Where the node stands
matters only for what is no expansion. -/
lemma comesTo_parserBody : ∀ (node : Expansion) (parent : Option String),
    node.isExpansion = true →
      ComesTo (firstOffence? scope rule (node.walk parent))
        (parserBody (scopedContext scope rule) node)
  | .sequence units, parent, _ => by
      rw [parserBody, Expansion.walk]
      exact (comesTo_parserBodies units "Sequence").bind_ok
  | .choice branches, parent, _ => by
      rw [parserBody, Expansion.walk, firstOffence?, List.findSome?_cons]
      by_cases hfew : branches.length < 2
      · have hoffence : Place.offence? scope rule ⟨parent, .choice branches⟩
            = some (.malformed "Choice" (.tooFewAlternatives branches.length) rule) := if_pos hfew
        rw [hoffence, if_pos hfew]
        rfl
      · have hoffence : Place.offence? scope rule ⟨parent, .choice branches⟩ = none := if_neg hfew
        rw [hoffence, if_neg hfew]
        exact (comesTo_parserBodies branches "Choice").bind_ok
  | .zeroOrOne operand, parent, _ => by
      rw [parserBody, Expansion.walk]
      exact (comesTo_operandBody scope rule "ZeroOrOne" (comesTo_parserBody operand _)).bind_ok
  | .zeroOrMore operand, parent, _ => by
      rw [parserBody, Expansion.walk]
      exact (comesTo_operandBody scope rule "ZeroOrMore" (comesTo_parserBody operand _)).bind_ok
  | .oneOrMore operand, parent, _ => by
      rw [parserBody, Expansion.walk]
      exact (comesTo_operandBody scope rule "OneOrMore" (comesTo_parserBody operand _)).bind_ok
  | .tryBlock operand, parent, _ => by
      rw [parserBody, Expansion.walk]
      exact comesTo_operandBody scope rule "TryBlock" (comesTo_parserBody operand _)
  | .lookahead amount, parent, _ => by
      rw [parserBody]
      exact ⟨none, rfl⟩
  | .action tokens, parent, _ => by
      rw [parserBody]
      exact ⟨_, rfl⟩
  | .nonTerminal name, parent, _ => by
      rw [parserBody]
      by_cases hname : name ∈ scope.productions
      · exact ⟨some (nameElement (parserRuleName name)), if_pos hname⟩
      · exact ⟨none, if_neg hname⟩
  | .literal image, parent, _ => by
      rw [parserBody, Expansion.walk, firstOffence?, List.findSome?_singleton]
      show ComesTo (if scope.lexer.ruleForImage? image = none then _ else _)
        (match scope.lexer.ruleForImage? image with
        | some rule => _
        | none => _)
      cases scope.lexer.ruleForImage? image with
      | none => rfl
      | some found => exact ⟨_, rfl⟩
  | .reference label, parent, _ => by
      rw [parserBody]
      exact ⟨_, rfl⟩
  | .endOfFile, parent, _ => by
      rw [parserBody]
      exact ⟨_, rfl⟩
  | .unknown, parent, _ => by
      rw [parserBody]
      rfl
  | .foreign value, parent, h => by cases h

lemma comesTo_parserBodies : ∀ (units : List Expansion) (kind : String),
    ComesTo (firstOffence? scope rule (Expansion.walkAll kind units))
      (parserBodies (scopedContext scope rule) kind units)
  | [], kind => by
      rw [parserBodies]
      exact ⟨[], rfl⟩
  | unit :: units, kind => by
      rw [parserBodies, Expansion.walkAll, firstOffence?, List.findSome?_append]
      have hunit := comesTo_operandBody scope rule kind (comesTo_parserBody unit _)
      exact hunit.bind fun _ => (comesTo_parserBodies units kind).bind_ok

end

end Offences

/-- **An expansion is refused if and only if its tree has an offence, and then for the first one.**
The offences are met in the order of the walk, each node before its parts and these from left to
right, whether or not anything would come of them. -/
theorem parserBody_error_iff (scope : Scope) (rule : Option String) (node : Expansion)
    (hnode : node.isExpansion = true) :
    ((∃ failure, parserBody { scope := some scope, rule := rule } node = .error failure) ↔
        ∃ place ∈ node.walk none, place.offence? scope rule ≠ none) ∧
      ∀ failure, parserBody { scope := some scope, rule := rule } node = .error failure ↔
        ∃ before place after error, node.walk none = before ++ place :: after ∧
          (∀ earlier ∈ before, earlier.offence? scope rule = none) ∧
          place.offence? scope rule = some error ∧
          failure = .conversion error ∧ error.rule = rule := by
  have hcomes := comesTo_parserBody scope rule node none hnode
  have hfailure := hcomes.error_iff
  constructor
  · calc (∃ failure, parserBody (scopedContext scope rule) node = .error failure)
        ↔ ∃ error, firstOffence? scope rule (node.walk none) = some error := by
          simp only [hfailure]
          exact ⟨fun ⟨_, error, herror, _⟩ => ⟨error, herror⟩,
            fun ⟨error, herror⟩ => ⟨_, error, herror, rfl⟩⟩
      _ ↔ ∃ place ∈ node.walk none, place.offence? scope rule ≠ none := by
          rw [← Option.isSome_iff_exists, firstOffence?, List.findSome?_isSome_iff]
          simp [Option.isSome_iff_ne_none]
  · intro failure
    rw [hfailure]
    constructor
    · rintro ⟨error, hfirst, rfl⟩
      obtain ⟨before, place, after, hwalk, hplace, hbefore⟩ := List.findSome?_eq_some_iff.mp hfirst
      exact ⟨before, place, after, error, hwalk, hbefore, hplace, rfl,
        Place.rule_of_offence? hplace⟩
    · rintro ⟨before, place, after, error, hwalk, hbefore, hplace, rfl, -⟩
      exact ⟨error, List.findSome?_eq_some_iff.mpr ⟨before, place, after, hwalk, hplace, hbefore⟩,
        rfl⟩

/-- A tree with three offences.  The first of them stands in a choice that nothing would come of. -/
def offendingTree : Expansion :=
  .sequence
    [.literal "+",
     .choice [.lookahead (some 2), .sequence [.action [], .foreign (.plain (.string "x"))]],
     .choice [.literal "-"]]

/-- The value that is no expansion is reported, not the choice of one alternative after it, nor the
literal in that choice. -/
theorem parserBody_error_offendingTree :
    offendingTree.isExpansion = true ∧ ∃ failure,
      parserBody { scope := some additionScope, rule := some "Unit" } offendingTree
        = .error (.conversion failure) ∧
      failure.message = "malformed Sequence: element is not an expansion: str (in rule Unit)" := by
  have hfirst := (parserBody_error_iff additionScope (some "Unit") offendingTree rfl).2
    (.conversion (.malformed "Sequence" (.notExpansion "str") (some "Unit")))
  refine ⟨rfl, _, hfirst.mpr ⟨(offendingTree.walk none).take 6, _, (offendingTree.walk none).drop 7, _,
    rfl, ?_, rfl, rfl, rfl⟩, by decide⟩
  decide +kernel

end GrammarConversion.Conversion
