import GrammarConversion.Proofs.LexerRule.Failures

/-!
# Well-formed regular expressions

Whether a regular expression can be converted is a matter of its nodes one by one.  Each kind of node
asks something of its own texts or of what stands in the places of its parts, and some kinds cannot
be converted at all.  None of this depends on case.

The conversion asks in an order of its own: all parts of a node are checked before the first of them
is converted, and a complement of nothing is not looked at any further.  What it asks in the end is
the same (`isConvertible_iff`).

**`lexerBody_ok_iff`: a regular expression is converted if and only if every node of its tree is well
formed.**  Where all ends of ranges are characters, it is refused otherwise.
-/

namespace GrammarConversion.Model.Regex

mutual

/-- **The nodes of a tree.** -/
def nodes : Regex → List Regex
  | .charList descriptors negated => .charList descriptors negated :: nodesOf descriptors
  | .sequence units => .sequence units :: nodesOf units
  | .choice alternatives => .choice alternatives :: nodesOf alternatives
  | .zeroOrMore operand => .zeroOrMore operand :: operand.nodes
  | .oneOrMore operand => .oneOrMore operand :: operand.nodes
  | .zeroOrOne operand => .zeroOrOne operand :: operand.nodes
  | .repetition operand min max => .repetition operand min max :: operand.nodes
  | .character char => [.character char]
  | .range left right => [.range left right]
  | .literal image => [.literal image]
  | .reference label => [.reference label]
  | .endOfFile => [.endOfFile]
  | .unknown => [.unknown]
  | .foreign value => [.foreign value]

def nodesOf : List Regex → List Regex
  | [] => []
  | node :: others => node.nodes ++ nodesOf others

end

/-- Whether the ends of a range are characters. -/
def HasCharacterEnds (left right : String) : Prop :=
  left.toList.length = 1 ∧ right.toList.length = 1

/-- **Whether a node is well formed,** whatever is inside of its parts. -/
def IsWellFormed : Regex → Prop
  | .character _ => True
  | .range left right => HasCharacterEnds left right
  | .charList descriptors _ => ∀ descriptor ∈ descriptors, descriptor.isDescriptor = true
  | .literal image => image ≠ ""
  | .sequence units => ∀ unit ∈ units, unit.isRegularExpression = true
  | .choice alternatives => ∀ alternative ∈ alternatives, alternative.isRegularExpression = true
  | .zeroOrMore operand => operand.isRegularExpression = true
  | .oneOrMore operand => operand.isRegularExpression = true
  | .zeroOrOne operand => operand.isRegularExpression = true
  | .repetition _ _ _ => False
  | .reference _ => True
  | .endOfFile => False
  | .unknown => False
  | .foreign _ => False

section Nodes

variable {node part : Regex}

lemma isWellFormed_iff :
    node.IsWellFormed ↔
      node.hasCounterpart = true ∧ ∀ part ∈ node.parts, node.admits part = true := by
  cases node <;> simp [IsWellFormed, HasCharacterEnds, hasCounterpart, parts, admits]

lemma mem_nodesOf {others : List Regex} :
    node ∈ nodesOf others ↔ ∃ part ∈ others, node ∈ part.nodes := by
  induction others with
  | nil => simp [nodesOf]
  | cons first others ih => simp [nodesOf, ih]

lemma mem_nodes_self (node : Regex) : node ∈ node.nodes := by
  cases node <;> simp [nodes]

lemma mem_nodes_of_part {inner : Regex} (hpart : part ∈ node.parts) (h : inner ∈ part.nodes) :
    inner ∈ node.nodes := by
  cases node with
  | charList descriptors negated =>
      exact List.mem_cons_of_mem _ (mem_nodesOf.mpr ⟨part, hpart, h⟩)
  | sequence units => exact List.mem_cons_of_mem _ (mem_nodesOf.mpr ⟨part, hpart, h⟩)
  | choice alternatives => exact List.mem_cons_of_mem _ (mem_nodesOf.mpr ⟨part, hpart, h⟩)
  | zeroOrMore operand =>
      obtain rfl := List.mem_singleton.mp hpart
      exact List.mem_cons_of_mem _ h
  | oneOrMore operand =>
      obtain rfl := List.mem_singleton.mp hpart
      exact List.mem_cons_of_mem _ h
  | zeroOrOne operand =>
      obtain rfl := List.mem_singleton.mp hpart
      exact List.mem_cons_of_mem _ h
  | _ => exact absurd hpart List.not_mem_nil

/-- All else in the tree of a node with a counterpart is in the trees of its parts. -/
lemma mem_nodes_cases {inner : Regex} (hcounterpart : node.hasCounterpart = true)
    (h : inner ∈ node.nodes) : inner = node ∨ ∃ part ∈ node.parts, inner ∈ part.nodes := by
  cases node with
  | repetition operand min max => exact Bool.noConfusion hcounterpart
  | _ => simpa [nodes, parts, mem_nodesOf] using h

lemma sizeOf_lt_of_mem_parts (h : part ∈ node.parts) : sizeOf part < sizeOf node := by
  cases node with
  | charList descriptors negated =>
      have hdescriptor : sizeOf part < sizeOf descriptors := List.sizeOf_lt_of_mem h
      simp only [Regex.charList.sizeOf_spec]
      omega
  | sequence units =>
      have hunit : sizeOf part < sizeOf units := List.sizeOf_lt_of_mem h
      simp only [Regex.sequence.sizeOf_spec]
      omega
  | choice alternatives =>
      have halternative : sizeOf part < sizeOf alternatives := List.sizeOf_lt_of_mem h
      simp only [Regex.choice.sizeOf_spec]
      omega
  | zeroOrMore operand => simp [List.mem_singleton.mp h]
  | oneOrMore operand => simp [List.mem_singleton.mp h]
  | zeroOrOne operand => simp [List.mem_singleton.mp h]
  | _ => exact absurd h List.not_mem_nil

lemma IsConvertible.isWellFormed (h : node.IsConvertible) :
    ∀ inner ∈ node.nodes, inner.IsWellFormed := by
  induction h with
  | @node node hcounterpart hadmits _ ih =>
      intro inner hinner
      obtain rfl | ⟨part, hpart, hinner⟩ := mem_nodes_cases hcounterpart hinner
      · exact isWellFormed_iff.mpr ⟨hcounterpart, hadmits⟩
      · exact ih part hpart inner hinner

lemma isConvertible_of_forall_nodes (node : Regex)
    (h : ∀ inner ∈ node.nodes, inner.IsWellFormed) : node.IsConvertible := by
  obtain ⟨hcounterpart, hadmits⟩ := isWellFormed_iff.mp (h node (mem_nodes_self node))
  refine .node hcounterpart hadmits fun part hpart => ?_
  have hsmaller := sizeOf_lt_of_mem_parts hpart
  exact isConvertible_of_forall_nodes part fun inner hinner =>
    h inner (mem_nodes_of_part hpart hinner)
termination_by sizeOf node

/-- **A tree can be converted if and only if its nodes are well formed.** -/
lemma isConvertible_iff : node.IsConvertible ↔ ∀ inner ∈ node.nodes, inner.IsWellFormed :=
  ⟨IsConvertible.isWellFormed, isConvertible_of_forall_nodes node⟩

lemma MeetsLongEnd.exists_range (h : node.MeetsLongEnd) :
    ∃ left right, .range left right ∈ node.nodes ∧ ¬HasCharacterEnds left right := by
  induction h with
  | @range left right hend =>
      exact ⟨left, right, mem_nodes_self _, Decidable.not_and_iff_or_not.mpr hend⟩
  | @inside node part before after _ hparts _ _ ih =>
      obtain ⟨left, right, hrange, hends⟩ := ih
      have hpart : part ∈ node.parts := by simp [hparts]
      exact ⟨left, right, mem_nodes_of_part hpart hrange, hends⟩

end Nodes

end GrammarConversion.Model.Regex

namespace GrammarConversion.Conversion

open Model

lemma lexerBody_isOk_iff (ignoreCase : Bool) (rule : Option String) {node : Regex}
    (hnode : node.isNode = true) :
    (∃ text, lexerBody (tokenContext ignoreCase rule) node = .ok text) ↔
      ∀ inner ∈ node.nodes, inner.IsWellFormed := by
  rw [← Regex.isConvertible_iff]
  refine ⟨fun ⟨text, htext⟩ => ?_, exists_lexerBody⟩
  have hfate := lexerBody_fate ignoreCase rule node hnode
  rw [htext] at hfate
  cases hfate with
  | converted h => exact h

/-- **A regular expression is converted if and only if every node of its tree is well formed,** so
it does not depend on case.  Where the ends of its ranges are characters, a failure refuses it with
the name of its rule. -/
theorem lexerBody_ok_iff (ignoreCase : Bool) (rule : Option String) (node : Regex)
    (hnode : node.isNode = true) :
    ((∃ text, lexerBody { ignoreCase := some ignoreCase, rule := rule } node = .ok text) ↔
        ∀ inner ∈ node.nodes, inner.IsWellFormed) ∧
      ((∃ text, lexerBody { ignoreCase := some ignoreCase, rule := rule } node = .ok text) ↔
        ∃ text, lexerBody { ignoreCase := some !ignoreCase, rule := rule } node = .ok text) ∧
      ((∀ left right, .range left right ∈ node.nodes → Regex.HasCharacterEnds left right) →
        ∀ failure, lexerBody { ignoreCase := some ignoreCase, rule := rule } node = .error failure →
          failure.Refuses rule) := by
  have hok := lexerBody_isOk_iff ignoreCase rule hnode
  refine ⟨hok, hok.trans (lexerBody_isOk_iff (!ignoreCase) rule hnode).symm, ?_⟩
  intro hranges failure hfailure
  have hfate := lexerBody_fate ignoreCase rule node hnode
  rw [hfailure] at hfate
  cases hfate with
  | longEnd hmeets =>
      obtain ⟨left, right, hrange, hends⟩ := hmeets.exists_range
      exact absurd (hranges left right hrange) hends
  | refused hrefuses => exact hrefuses

/-- Digits up to three times, before the end of the input: one construct without a counterpart after
the other. -/
def boundedDigits : Regex :=
  .sequence [.repetition (.charList [.range "0" "9"] (some false)) (some 1) (some 3), .endOfFile]

/-- Its ranges are well formed, so it is refused in either case, and its rule is named. -/
theorem lexerBody_ok_iff_boundedDigits :
    boundedDigits.isNode = true ∧
      (∀ left right, .range left right ∈ boundedDigits.nodes → Regex.HasCharacterEnds left right) ∧
      ∀ ignoreCase, ∃ failure,
        lexerBody { ignoreCase := some ignoreCase, rule := some "DIGITS" } boundedDigits
          = .error failure ∧ failure.Refuses (some "DIGITS") := by
  have hranges : ∀ left right, .range left right ∈ boundedDigits.nodes →
      Regex.HasCharacterEnds left right := by
    simp [boundedDigits, Regex.nodes, Regex.nodesOf, Regex.HasCharacterEnds]
  refine ⟨rfl, hranges, fun ignoreCase => ?_⟩
  obtain ⟨hok, -, hrefuses⟩ := lexerBody_ok_iff ignoreCase (some "DIGITS") boundedDigits rfl
  cases hresult : lexerBody { ignoreCase := some ignoreCase, rule := some "DIGITS" } boundedDigits with
  | ok text =>
      have hmem : Regex.endOfFile ∈ boundedDigits.nodes := by
        simp [boundedDigits, Regex.nodes, Regex.nodesOf]
      exact (hok.mp ⟨text, hresult⟩ .endOfFile hmem).elim
  | error failure => exact ⟨failure, rfl, hrefuses hranges failure hresult⟩

end GrammarConversion.Conversion
