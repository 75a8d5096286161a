import GrammarConversion.Proofs.ParserRule.Elements
import GrammarConversion.Proofs.ParserRule.Failures

/-!
# References of expansions

What an expansion refers to can be read off its tree: a walk through the tree, each node before its
parts and these from left to right, meets every reference once.  The part of a parser rule that
comes of the expansion should refer to the same, in the same order.

Three things could go wrong.  A subtree could be dropped with a reference in it, a part could be
written twice when it is quantified or wrapped, and what is left of a dropped subtree could stay
behind as a sequence or a choice of nothing.

* `Expansion.referencesAt_walk`: a walk meets the symbols of the expansion under their names.
* `isKept_isTightThroughout`: no operation leaves a sequence or a choice behind that need not be there.

**`parserBody_references`: no reference is lost, repeated or moved,** and nothing comes of an
expansion only if it has none.
-/

namespace GrammarConversion.Model

/-- A node where a walk through a tree meets it, and the type of the node that it is a part of. -/
structure Place where
  parent : Option String
  node : Expansion

namespace Expansion

open Antlr
open Conversion

mutual

/-- **The places of a tree,** each node before its parts and these from left to right. -/
def walk (parent : Option String) : Expansion → List Place
  | .sequence units => ⟨parent, .sequence units⟩ :: walkAll "Sequence" units
  | .choice branches => ⟨parent, .choice branches⟩ :: walkAll "Choice" branches
  | .zeroOrOne operand => ⟨parent, .zeroOrOne operand⟩ :: operand.walk (some "ZeroOrOne")
  | .zeroOrMore operand => ⟨parent, .zeroOrMore operand⟩ :: operand.walk (some "ZeroOrMore")
  | .oneOrMore operand => ⟨parent, .oneOrMore operand⟩ :: operand.walk (some "OneOrMore")
  | .tryBlock operand => ⟨parent, .tryBlock operand⟩ :: operand.walk (some "TryBlock")
  | .lookahead amount => [⟨parent, .lookahead amount⟩]
  | .action tokens => [⟨parent, .action tokens⟩]
  | .nonTerminal name => [⟨parent, .nonTerminal name⟩]
  | .literal image => [⟨parent, .literal image⟩]
  | .reference label => [⟨parent, .reference label⟩]
  | .endOfFile => [⟨parent, .endOfFile⟩]
  | .unknown => [⟨parent, .unknown⟩]
  | .foreign value => [⟨parent, .foreign value⟩]

/-- The places of the parts of a node of the type `kind`. -/
def walkAll (kind : String) : List Expansion → List Place
  | [] => []
  | unit :: units => unit.walk (some kind) ++ walkAll kind units

end

/-- What a node refers to apart from its parts: a call to the rules of the called productions, a
literal to the rule that it is resolved to, a label to the rule of that name. -/
def ownReferences (scope : Scope) : Expansion → List String
  | .action tokens => (Code.callsByPlace scope.productions tokens).map parserRuleName
  | .nonTerminal name => if name ∈ scope.productions then [parserRuleName name] else []
  | .literal image => ((scope.lexer.ruleForImage? image).map Rule.name).toList
  | .reference label => [ruleName label]
  | .endOfFile => ["EOF"]
  | _ => []

/-- The references that are met at places, in their order. -/
def referencesAt (scope : Scope) (places : List Place) : List String :=
  places.flatMap fun place => place.node.ownReferences scope

/-- **The references of an expansion,** as a walk through its tree meets them. -/
def references (scope : Scope) (expansion : Expansion) : List String :=
  referencesAt scope (expansion.walk none)

section References

variable (scope : Scope)

@[simp]
lemma referencesAt_nil : referencesAt scope [] = [] := rfl

@[simp]
lemma referencesAt_cons (place : Place) (places : List Place) :
    referencesAt scope (place :: places)
      = place.node.ownReferences scope ++ referencesAt scope places := rfl

@[simp]
lemma referencesAt_append (places others : List Place) :
    referencesAt scope (places ++ others)
      = referencesAt scope places ++ referencesAt scope others :=
  List.flatMap_append

mutual

/-- A walk meets the symbols of an expansion under their names. -/
lemma referencesAt_walk : ∀ (expansion : Expansion) (parent : Option String),
    referencesAt scope (expansion.walk parent)
      = (expansion.symbols scope.productions).filterMap (elementName? scope.lexer)
  | .sequence units, parent => by
      simp [walk, ownReferences, symbols, referencesAt_walkAll units]
  | .choice branches, parent => by
      simp [walk, ownReferences, symbols, referencesAt_walkAll branches]
  | .zeroOrOne operand, parent => by
      simp [walk, ownReferences, symbols, referencesAt_walk operand]
  | .zeroOrMore operand, parent => by
      simp [walk, ownReferences, symbols, referencesAt_walk operand]
  | .oneOrMore operand, parent => by
      simp [walk, ownReferences, symbols, referencesAt_walk operand]
  | .tryBlock operand, parent => by
      simp [walk, ownReferences, symbols, referencesAt_walk operand]
  | .lookahead amount, parent => by
      simp [walk, ownReferences, symbols]
  | .action tokens, parent => by
      simp [walk, ownReferences, symbols, List.filterMap_map, elementName?, Function.comp_def]
  | .nonTerminal name, parent => by
      by_cases hname : name ∈ scope.productions <;>
        simp [walk, ownReferences, symbols, hname, elementName?]
  | .literal image, parent => by
      cases hrule : scope.lexer.ruleForImage? image <;>
        simp [walk, ownReferences, symbols, hrule, elementName?]
  | .reference label, parent => by
      simp [walk, ownReferences, symbols, elementName?]
  | .endOfFile, parent => by
      simp [walk, ownReferences, symbols, elementName?]
  | .unknown, parent => by
      simp [walk, ownReferences, symbols]
  | .foreign value, parent => by
      simp [walk, ownReferences, symbols]

lemma referencesAt_walkAll : ∀ (units : List Expansion) (kind : String),
    referencesAt scope (walkAll kind units)
      = (symbolsOf scope.productions units).filterMap (elementName? scope.lexer)
  | [], kind => by
      simp [walkAll, symbolsOf]
  | unit :: units, kind => by
      simp [walkAll, symbolsOf, referencesAt_walk unit, referencesAt_walkAll units]

end

end References

end Expansion

end GrammarConversion.Model

namespace GrammarConversion.Antlr.Component

mutual

/-- A part of a parser rule and all parts inside of it. -/
def nodes : Component → List Component
  | .element text q => [.element text q]
  | .sequence children q => .sequence children q :: nodesOf children
  | .choice children q => .choice children q :: nodesOf children
  | .unknown q => [.unknown q]

def nodesOf : List Component → List Component
  | [] => []
  | child :: children => child.nodes ++ nodesOf children

end

/-- **Whether a part has to be there as it is.**  A choice has several alternatives.  A sequence has
several parts, or it puts a second quantifier on its only one. -/
def IsTight : Component → Prop
  | .element _ _ => True
  | .sequence children q =>
    2 ≤ children.length ∨ q ≠ none ∧ ∃ child, children = [child] ∧ child.quantifier ≠ none
  | .choice children _ => 2 ≤ children.length
  | .unknown _ => False

/-- Whether a part and all parts inside of it have to be there. -/
def IsTightThroughout (part : Component) : Prop :=
  ∀ node ∈ part.nodes, node.IsTight

lemma forall_mem_nodesOf {holds : Component → Prop} {children : List Component} :
    (∀ node ∈ nodesOf children, holds node) ↔
      ∀ child ∈ children, ∀ node ∈ child.nodes, holds node := by
  induction children with
  | nil => simp [nodesOf]
  | cons child children ih => simp [nodesOf, or_imp, forall_and, ih]

lemma isTightThroughout_sequence {children : List Component} {q : Option Quantifier} :
    (Component.sequence children q).IsTightThroughout ↔
      (Component.sequence children q).IsTight ∧ ∀ child ∈ children, child.IsTightThroughout := by
  simp [IsTightThroughout, nodes, forall_mem_nodesOf]

lemma isTightThroughout_choice {children : List Component} {q : Option Quantifier} :
    (Component.choice children q).IsTightThroughout ↔
      2 ≤ children.length ∧ ∀ child ∈ children, child.IsTightThroughout := by
  simp [IsTightThroughout, nodes, forall_mem_nodesOf, IsTight]

/-- A quantifier is put on a part, or on a sequence that wraps a part with a quantifier. -/
lemma IsTightThroughout.quantified {part : Component} (h : part.IsTightThroughout)
    (q : Option Quantifier) : (part.quantified q).IsTightThroughout := by
  cases q with
  | none => exact h
  | some q =>
      rw [Component.quantified]
      split
      · rename_i hquantifier
        cases part with
        | element text own => simp [withQuantifier, IsTightThroughout, nodes, IsTight]
        | sequence children own =>
            obtain rfl : own = none := hquantifier
            rw [isTightThroughout_sequence] at h
            rw [withQuantifier, isTightThroughout_sequence]
            exact ⟨.inl (by simpa [IsTight] using h.1), h.2⟩
        | choice children own =>
            rw [isTightThroughout_choice] at h
            rwa [withQuantifier, isTightThroughout_choice]
        | unknown own => exact absurd (h (.unknown own) (by simp [nodes])) id
      · rename_i mark hquantifier
        refine isTightThroughout_sequence.mpr ⟨.inr ⟨by simp, part, rfl, ?_⟩, by simpa using h⟩
        simp [hquantifier]

mutual

/-- **A part that has to be there holds an element.** -/
lemma IsTightThroughout.elements_ne_nil : ∀ {part : Component}, part.IsTightThroughout →
    part.elements ≠ []
  | .element text q, _ => by
      simp [elements]
  | .sequence children q, h => by
      rw [isTightThroughout_sequence] at h
      have hchildren : children ≠ [] := by
        rintro rfl
        simp [IsTight] at h
      exact elementsOf_ne_nil hchildren h.2
  | .choice children q, h => by
      rw [isTightThroughout_choice] at h
      have hchildren : children ≠ [] := by
        rintro rfl
        simp at h
      exact elementsOf_ne_nil hchildren h.2
  | .unknown q, h => absurd (h (.unknown q) (by simp [nodes])) id

lemma elementsOf_ne_nil : ∀ {children : List Component}, children ≠ [] →
    (∀ child ∈ children, child.IsTightThroughout) → elementsOf children ≠ []
  | [], hne, _ => absurd rfl hne
  | child :: children, _, h => by
      have hchild : child.elements ≠ [] := (h child List.mem_cons_self).elements_ne_nil
      simp [elementsOf, hchild]

end

end GrammarConversion.Antlr.Component

namespace GrammarConversion.Conversion

open Antlr
open Model

lemma isKept_isTightThroughout : IsKept Component.IsTightThroughout where
  name := fun name => by
    simp [nameElement, Component.IsTightThroughout, Component.nodes, Component.IsTight]
  quantified := Component.IsTightThroughout.quantified
  sequence := fun hlength h => Component.isTightThroughout_sequence.mpr ⟨.inl hlength, h⟩
  choice := fun hlength h _ => Component.isTightThroughout_choice.mpr ⟨hlength, h⟩

section References

variable {scope : Scope} {rule : Option String} {expansion : Expansion} {part : Option Component}

/-- Where an expansion is converted, every symbol has a name. -/
lemma partElements_parserBody (h : parserBody (scopedContext scope rule) expansion = .ok part) :
    partElements part = expansion.references scope := by
  have hsymbols := congrArg (List.filterMap id) (elementName?_parserBody scope rule expansion h)
  simp only [List.filterMap_map, Function.comp_def, id, List.filterMap_some] at hsymbols
  rw [Expansion.references, Expansion.referencesAt_walk, ← hsymbols]

lemma isTightThroughout_parserBody (h : parserBody (scopedContext scope rule) expansion = .ok part)
    (hnode : expansion.isExpansion = true) : HoldsOfPart Component.IsTightThroughout part := by
  have hanswers := answers_parserBody scope rule isKept_isTightThroughout expansion hnode
  rwa [h] at hanswers

lemma isExpansion_of_parserBody (h : parserBody (scopedContext scope rule) expansion = .ok part) :
    expansion.isExpansion = true := by
  cases expansion with
  | foreign value =>
      rw [parserBody] at h
      cases h
  | _ => rfl

end References

/-- **No reference is lost, repeated or moved.**  The elements of what comes of an expansion are the
references that a walk through its tree meets, nothing comes of it only if there are none, and no
sequence or choice in it is there for less than two parts, but to put a second quantifier on one. -/
theorem parserBody_references (scope : Scope) (rule : Option String) (expansion : Expansion)
    (part : Option Component)
    (h : parserBody { scope := some scope, rule := rule } expansion = .ok part) :
    partElements part = expansion.references scope ∧
      (part = none ↔ expansion.references scope = []) ∧
      ∀ component, part = some component → ∀ node ∈ component.nodes, node.IsTight := by
  have helements : partElements part = expansion.references scope := partElements_parserBody h
  have htight := isTightThroughout_parserBody h (isExpansion_of_parserBody h)
  refine ⟨helements, ?_, htight⟩
  rw [← helements]
  cases part with
  | none => simp [partElements]
  | some component => simp [partElements, (htight component rfl).elements_ne_nil]

/-- A lexer with a token for the plus sign, and a production that actions may call. -/
def additionScope : Scope :=
  { lexer :=
      { name := "Lexer"
        modes := [{ name := defaultMode, rules := [{ name := "ADD", body := .text "'+'" }] }] }
    productions := ["Block"] }

/-- The tokens of `Block() = new Block(); Block(`. -/
def blockTokens : List Code.Token :=
  [⟨.identifier, "Block"⟩, ⟨.operator, "("⟩, ⟨.operator, ")"⟩, ⟨.operator, "="⟩, ⟨.keyword, "new"⟩,
   ⟨.identifier, "Block"⟩, ⟨.operator, "("⟩, ⟨.operator, ")"⟩, ⟨.operator, ";"⟩,
   ⟨.identifier, "Block"⟩, ⟨.operator, "("⟩]

/-- An action that calls a production twice and makes an object of its name.  The choice loses its
other branch, so the calls become optional before they are repeated. -/
def repeatedCalls : Expansion :=
  .sequence
    [.lookahead (some 1), .oneOrMore (.choice [.action blockTokens, .action []]),
     .nonTerminal "helper", .literal "+", .endOfFile]

/-- The calls stand once each in what is optional, and that is wrapped to be repeated. -/
theorem parserBody_references_repeatedCalls :
    ∃ component,
      parserBody { scope := some additionScope, rule := some "Unit" } repeatedCalls
        = .ok (some component) ∧
      component.text? = some "((block block)?)+ ADD EOF" ∧
      component.elements = ["block", "block", "ADD", "EOF"] ∧
      ∀ node ∈ component.nodes, node.IsTight := by
  have h : parserBody { scope := some additionScope, rule := some "Unit" } repeatedCalls
      = .ok (some (.sequence
          [.sequence [.sequence [.element "block" none, .element "block" none] (some .zeroOrOne)]
            (some .oneOrMore),
           .element "ADD" none, .element "EOF" none] none)) := by
    cbv
  have hreferences : repeatedCalls.references additionScope = ["block", "block", "ADD", "EOF"] := by
    decide +kernel
  obtain ⟨helements, -, htight⟩ := parserBody_references additionScope (some "Unit") _ _ h
  exact ⟨_, h, by decide +kernel, helements.trans hreferences, htight _ rfl⟩

end GrammarConversion.Conversion
