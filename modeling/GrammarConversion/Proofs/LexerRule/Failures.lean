import Mathlib.Tactic.Lemma
import GrammarConversion.Conversion.LexerBody

/-!
# Regular expressions that cannot be converted

A node of a regular expression either has nothing to convert inside of it, or it is **composite**:
its parts are checked, converted from left to right, and put together.  So the conversion of a tree
ends at the first node, in this order, that is not as it should be.

Most such nodes are refused: the failure says what is wrong, and names the rule where it is known.
One is not.  A range whose ends are not characters ends the conversion with a failure that is no
conversion error (`MeetsLongEnd`).

* `lexerBody_fate`: **a tree is converted, meets such a range, or is refused.**
* `exists_lexerBody`, `lexerBody_eq_notOneCharacter_iff`: the first two cases are decided by the
  tree alone.
-/

namespace GrammarConversion

/-- **Whether a failure refuses a part of a rule:** a construct without a counterpart, or a node
that is not formed as it should be. -/
inductive Failure.Refuses (rule : Option String) : Failure → Prop
  | unsupported (kind : String) : Refuses rule (.conversion (.unsupported kind rule))
  | malformed (kind : String) (defect : Defect) :
      Refuses rule (.conversion (.malformed kind defect rule))

/-- **Whether a failure is a conversion error** that says what is wrong with the grammar. -/
inductive Failure.IsOfGrammar : Failure → Prop
  | refused {rule : Option String} {failure : Failure} (h : failure.Refuses rule) :
      IsOfGrammar failure
  | unresolvedLiteral (literal : String) (rule : Option String) :
      IsOfGrammar (.conversion (.unresolvedLiteral literal rule))
  | namingConflict (name : String) (body existing : Option String) :
      IsOfGrammar (.conversion (.namingConflict name body existing))

end GrammarConversion

namespace GrammarConversion.Model.Regex

/-- Whether a node is one of this tree. -/
def isNode : Regex → Bool
  | .foreign _ => false
  | _ => true

/-- Whether the conversion of a node is that of its parts. -/
def isComposite : Regex → Bool
  | .charList _ _ => true
  | .sequence _ => true
  | .choice _ => true
  | .zeroOrMore _ => true
  | .oneOrMore _ => true
  | .zeroOrOne _ => true
  | _ => false

/-- The parts of a composite node, in order. -/
def parts : Regex → List Regex
  | .charList descriptors _ => descriptors
  | .sequence units => units
  | .choice alternatives => alternatives
  | .zeroOrMore operand => [operand]
  | .oneOrMore operand => [operand]
  | .zeroOrOne operand => [operand]
  | _ => []

/-- Whether a part may stand in a composite node. -/
def admits : Regex → Regex → Bool
  | .charList _ _, part => part.isDescriptor
  | _, part => part.isRegularExpression

/-- What is wrong with a part that may not stand in a composite node. -/
def defect : Regex → Regex → Defect
  | .charList _ _, part => .notDescriptor part.typeName
  | _, part => .notRegularExpression part.typeName

/-- Whether a node can be written if its parts can. -/
def hasCounterpart : Regex → Bool
  | .range left right => left.toList.length == 1 && right.toList.length == 1
  | .literal image => image ≠ ""
  | .repetition _ _ _ => false
  | .endOfFile => false
  | .unknown => false
  | .foreign _ => false
  | _ => true

/-- **Whether a tree can be converted:** every node has a counterpart and admits its parts. -/
inductive IsConvertible : Regex → Prop
  | node {node : Regex} (hcounterpart : node.hasCounterpart = true)
      (hadmits : ∀ part ∈ node.parts, node.admits part = true)
      (hparts : ∀ part ∈ node.parts, IsConvertible part) : IsConvertible node

/-- **Whether the first node that is not as it should be is a range whose ends are not
characters.**  Around the range all parts are admitted, and those before it can be converted. -/
inductive MeetsLongEnd : Regex → Prop
  | range {left right : String} (hend : left.toList.length ≠ 1 ∨ right.toList.length ≠ 1) :
      MeetsLongEnd (.range left right)
  | inside {node part : Regex} {before after : List Regex}
      (hadmits : ∀ part ∈ node.parts, node.admits part = true)
      (hparts : node.parts = before ++ part :: after)
      (hbefore : ∀ earlier ∈ before, IsConvertible earlier) (hpart : MeetsLongEnd part) :
      MeetsLongEnd node

lemma isNode_of_admits {node part : Regex} (h : node.admits part = true) : part.isNode = true := by
  cases part with
  | foreign value => cases node <;> cases h
  | _ => rfl

end GrammarConversion.Model.Regex

namespace GrammarConversion.Conversion

open Antlr
open Model

/-! ## Values of results -/

section Results

variable {α β : Type} {result : Except Failure α} {b : β}

lemma bind_eq_ok {next : α → Except Failure β} (h : (result >>= next) = .ok b) :
    ∃ a, result = .ok a ∧ next a = .ok b := by
  cases result with
  | error failure => cases h
  | ok a => exact ⟨a, rfl, h⟩

lemma map_eq_ok {f : α → β} (h : result.map f = .ok b) : ∃ a, result = .ok a ∧ f a = b := by
  cases result with
  | error failure => cases h
  | ok a => exact ⟨a, rfl, Except.ok.inj h⟩

end Results

section Failures

variable {context : RegexContext} {node : Regex} {nodes : List Regex} {failure : Failure}

/-! ## Composite nodes -/

/-- The text of a composite node from those of its parts. -/
def compositeText : Regex → List String → String
  | .charList descriptors negated =>
    if negated.getD false && descriptors.isEmpty then fun _ => "." else setText (negated.getD false)
  | .sequence _ => " ".intercalate
  | .choice _ => fun texts => "(" ++ " | ".intercalate texts ++ ")"
  | .zeroOrMore _ => fun texts => "(" ++ texts.headD "" ++ ")*"
  | .oneOrMore _ => fun texts => "(" ++ texts.headD "" ++ ")+"
  | .zeroOrOne _ => fun texts => "(" ++ texts.headD "" ++ ")?"
  | _ => fun _ => ""

/-- Refuses parts of a composite node that may not stand there; the first of them is reported. -/
def checkParts (context : RegexContext) (node : Regex) : Except Failure Unit :=
  match node.parts.find? fun part => !node.admits part with
  | none => .ok ()
  | some part => .error (context.malformed node.typeName (node.defect part))

/-- What comes of checking the parts of a node: all of them are admitted, or the node is refused. -/
lemma checkParts_cases (context : RegexContext) (node : Regex) :
    (checkParts context node = .ok () ∧ ∀ part ∈ node.parts, node.admits part = true) ∨
      ∃ failure, checkParts context node = .error failure ∧ failure.Refuses context.rule ∧
        ∃ part ∈ node.parts, node.admits part = false := by
  rw [checkParts]
  cases hfind : node.parts.find? fun part => !node.admits part with
  | none => exact .inl ⟨rfl, by simpa using List.find?_eq_none.mp hfind⟩
  | some part =>
      exact .inr ⟨_, rfl, .malformed _ _, part, List.mem_of_find?_eq_some hfind,
        by simpa using List.find?_some hfind⟩

lemma checkParts_ok (h : ∀ part ∈ node.parts, node.admits part = true) :
    checkParts context node = .ok () := by
  rcases checkParts_cases context node with ⟨hok, -⟩ | ⟨_, -, -, part, hpart, hrefused⟩
  · exact hok
  · rw [h part hpart] at hrefused
    exact Bool.noConfusion hrefused

/-- **The body for a composite node** is made of those for its parts. -/
lemma lexerBody_of_isComposite (context : RegexContext) (h : node.isComposite = true) :
    lexerBody context node
      = (do
        checkParts context node
        let texts ← lexerBodies context node.parts
        .ok (compositeText node texts)) := by
  cases node with
  | charList descriptors negated =>
      by_cases hany : (negated.getD false && descriptors.isEmpty) = true
      · obtain rfl : descriptors = [] := by simpa using (Bool.and_eq_true_iff.mp hany).2
        rw [lexerBody, if_pos hany, compositeText, if_pos hany]
        rfl
      · rw [lexerBody, if_neg hany, compositeText, if_neg hany]
        rfl
  | sequence units =>
      rw [lexerBody]
      rfl
  | choice alternatives =>
      rw [lexerBody]
      rfl
  | zeroOrMore operand =>
      rw [lexerBody, Regex.parts, lexerBodies, lexerBodies]
      cases lexerBody context operand <;> rfl
  | oneOrMore operand =>
      rw [lexerBody, Regex.parts, lexerBodies, lexerBodies]
      cases lexerBody context operand <;> rfl
  | zeroOrOne operand =>
      rw [lexerBody, Regex.parts, lexerBodies, lexerBodies]
      cases lexerBody context operand <;> rfl
  | _ => cases h

/-! ## What can become of a tree -/

/-- **What the conversion of a node comes to.** -/
inductive Fate (rule : Option String) (node : Regex) : Except Failure String → Prop
  | converted {text : String} (h : node.IsConvertible) : Fate rule node (.ok text)
  | longEnd (h : node.MeetsLongEnd) : Fate rule node (.error .notOneCharacter)
  | refused {failure : Failure} (h : failure.Refuses rule) : Fate rule node (.error failure)

/-- What the conversion of several nodes comes to, which ends at the first one that is not
converted. -/
inductive Fates (rule : Option String) (nodes : List Regex) : Except Failure (List String) → Prop
  | converted {texts : List String} (h : ∀ node ∈ nodes, node.IsConvertible) :
      Fates rule nodes (.ok texts)
  | longEnd {node : Regex} {before after : List Regex} (hnodes : nodes = before ++ node :: after)
      (hbefore : ∀ earlier ∈ before, earlier.IsConvertible) (h : node.MeetsLongEnd) :
      Fates rule nodes (.error .notOneCharacter)
  | refused {failure : Failure} (h : failure.Refuses rule) : Fates rule nodes (.error failure)

/-- One node after another. -/
lemma Fate.cons {rule : Option String} {body : Except Failure String}
    {bodies : Except Failure (List String)} (hnode : Fate rule node body)
    (hnodes : Fates rule nodes bodies) :
    Fates rule (node :: nodes) (do
      let text ← body
      let texts ← bodies
      .ok (text :: texts)) := by
  cases hnode with
  | longEnd h => exact .longEnd (List.nil_append (node :: nodes)).symm (by simp) h
  | refused h => exact .refused h
  | converted h =>
      cases hnodes with
      | converted hall => exact .converted (List.forall_mem_cons.mpr ⟨h, hall⟩)
      | @longEnd other before after hsplit hbefore hlong =>
          have hsplits : node :: nodes = (node :: before) ++ other :: after :=
            congrArg (node :: ·) hsplit
          exact .longEnd hsplits (List.forall_mem_cons.mpr ⟨h, hbefore⟩) hlong
      | refused h => exact .refused h

lemma Fate.single (h : Fate context.rule node (lexerBody context node)) :
    Fates context.rule [node] (lexerBodies context [node]) := by
  rw [lexerBodies, lexerBodies]
  exact h.cons (.converted (by simp))

/-- **A composite node fares as its parts do,** once they are admitted. -/
lemma fate_of_isComposite (context : RegexContext) (node : Regex) (h : node.isComposite = true)
    (hparts : (∀ part ∈ node.parts, part.isNode = true) →
      Fates context.rule node.parts (lexerBodies context node.parts)) :
    Fate context.rule node (lexerBody context node) := by
  rw [lexerBody_of_isComposite context h]
  rcases checkParts_cases context node with ⟨hok, hadmits⟩ | ⟨failure, herror, hrefuses, -⟩
  · rw [hok]
    have hcounterpart : node.hasCounterpart = true := by cases node <;> first | rfl | cases h
    have hfates := hparts fun part hpart => Regex.isNode_of_admits (hadmits part hpart)
    generalize lexerBodies context node.parts = bodies at hfates ⊢
    cases hfates with
    | converted hall => exact .converted (.node hcounterpart hadmits hall)
    | longEnd hsplit hbefore hlong => exact .longEnd (.inside hadmits hsplit hbefore hlong)
    | refused hrefuses => exact .refused hrefuses
  · rw [herror]
    exact .refused hrefuses

/-- A range is converted if and only if its ends are characters. -/
lemma rangeText_cases (ignoreCase : Bool) (rule : Option String) (left right : String) :
    ((left.toList.length = 1 ∧ right.toList.length = 1) ∧
        ∃ text, rangeText ⟨some ignoreCase, rule⟩ left right = .ok text) ∨
      ((left.toList.length ≠ 1 ∨ right.toList.length ≠ 1) ∧
        rangeText ⟨some ignoreCase, rule⟩ left right = .error .notOneCharacter) := by
  rw [rangeText]
  split
  · rename_i first last hleft hright
    rw [hleft, hright]
    exact .inl ⟨⟨rfl, rfl⟩, _, rfl⟩
  · rename_i hends
    refine .inr ⟨?_, rfl⟩
    refine Decidable.not_and_iff_or_not.mp fun hboth => ?_
    obtain ⟨first, hfirst⟩ := List.length_eq_one_iff.mp hboth.1
    obtain ⟨last, hlast⟩ := List.length_eq_one_iff.mp hboth.2
    exact hends first last hfirst hlast

end Failures

section Trees

variable (ignoreCase : Bool) (rule : Option String)

/-- What a regular expression is converted with for a token. -/
abbrev tokenContext : RegexContext :=
  { ignoreCase := some ignoreCase, rule := rule }

mutual

/-- **A tree is converted, meets a long end, or is refused.** -/
lemma lexerBody_fate : ∀ node : Regex, node.isNode = true →
    Fate rule node (lexerBody (tokenContext ignoreCase rule) node)
  | .character char, _ => by
      rw [lexerBody]
      exact .converted (.node rfl (by simp [Regex.parts]) (by simp [Regex.parts]))
  | .range left right, _ => by
      rw [lexerBody]
      rcases rangeText_cases ignoreCase rule left right with ⟨hends, text, htext⟩ | ⟨hends, herror⟩
      · rw [htext]
        exact .converted (.node (by simpa [Regex.hasCounterpart] using hends)
          (by simp [Regex.parts]) (by simp [Regex.parts]))
      · rw [herror]
        exact .longEnd (.range hends)
  | .charList descriptors negated, _ =>
      fate_of_isComposite (tokenContext ignoreCase rule) (.charList descriptors negated) rfl
        (lexerBodies_fates descriptors)
  | .literal image, _ => by
      rw [lexerBody]
      split
      · exact .refused (.malformed _ _)
      · rename_i himage
        exact .converted (.node (by simpa [Regex.hasCounterpart] using himage)
          (by simp [Regex.parts]) (by simp [Regex.parts]))
  | .sequence units, _ =>
      fate_of_isComposite (tokenContext ignoreCase rule) (.sequence units) rfl
        (lexerBodies_fates units)
  | .choice alternatives, _ =>
      fate_of_isComposite (tokenContext ignoreCase rule) (.choice alternatives) rfl
        (lexerBodies_fates alternatives)
  | .zeroOrMore operand, _ =>
      fate_of_isComposite (tokenContext ignoreCase rule) (.zeroOrMore operand) rfl fun h =>
        (lexerBody_fate operand (h operand List.mem_cons_self)).single
  | .oneOrMore operand, _ =>
      fate_of_isComposite (tokenContext ignoreCase rule) (.oneOrMore operand) rfl fun h =>
        (lexerBody_fate operand (h operand List.mem_cons_self)).single
  | .zeroOrOne operand, _ =>
      fate_of_isComposite (tokenContext ignoreCase rule) (.zeroOrOne operand) rfl fun h =>
        (lexerBody_fate operand (h operand List.mem_cons_self)).single
  | .repetition operand min max, _ => by
      rw [lexerBody]
      exact .refused (.unsupported _)
  | .reference label, _ => by
      rw [lexerBody]
      exact .converted (.node rfl (by simp [Regex.parts]) (by simp [Regex.parts]))
  | .endOfFile, _ => by
      rw [lexerBody]
      exact .refused (.unsupported _)
  | .unknown, _ => by
      rw [lexerBody]
      exact .refused (.unsupported _)
  | .foreign value, h => by cases h

lemma lexerBodies_fates : ∀ nodes : List Regex, (∀ node ∈ nodes, node.isNode = true) →
    Fates rule nodes (lexerBodies (tokenContext ignoreCase rule) nodes)
  | [], _ => by
      rw [lexerBodies]
      exact .converted (by simp)
  | node :: nodes, h => by
      rw [lexerBodies]
      rcases List.forall_mem_cons.mp h with ⟨hnode, hnodes⟩
      exact (lexerBody_fate node hnode).cons (lexerBodies_fates nodes hnodes)

end

variable {ignoreCase rule}
variable {node : Regex}

/-! ## Fates in terms of trees -/

/-- Nodes that are converted are all converted together. -/
lemma exists_lexerBodies {context : RegexContext} {nodes : List Regex}
    (h : ∀ node ∈ nodes, ∃ text, lexerBody context node = .ok text) :
    ∃ texts, lexerBodies context nodes = .ok texts := by
  induction nodes with
  | nil => exact ⟨[], by rw [lexerBodies]⟩
  | cons node nodes ih =>
      rcases List.forall_mem_cons.mp h with ⟨⟨text, htext⟩, hnodes⟩
      rcases ih hnodes with ⟨texts, htexts⟩
      refine ⟨text :: texts, ?_⟩
      rw [lexerBodies, htext, htexts]
      rfl

/-- The first failure among several nodes is that of all of them. -/
lemma lexerBodies_eq_error {context : RegexContext} {before after : List Regex} {failure : Failure}
    (hbefore : ∀ earlier ∈ before, ∃ text, lexerBody context earlier = .ok text)
    (hnode : lexerBody context node = .error failure) :
    lexerBodies context (before ++ node :: after) = .error failure := by
  induction before with
  | nil =>
      rw [List.nil_append, lexerBodies, hnode]
      rfl
  | cons earlier before ih =>
      rcases List.forall_mem_cons.mp hbefore with ⟨⟨text, htext⟩, hrest⟩
      rw [List.cons_append, lexerBodies, htext, ih hrest]
      rfl

lemma exists_lexerBody_of_leaf (hleaf : node.isComposite = false)
    (hcounterpart : node.hasCounterpart = true) :
    ∃ text, lexerBody (tokenContext ignoreCase rule) node = .ok text := by
  cases node with
  | character char =>
      rw [lexerBody]
      exact ⟨_, rfl⟩
  | range left right =>
      rw [lexerBody]
      have hends : left.toList.length = 1 ∧ right.toList.length = 1 := by
        simpa [Regex.hasCounterpart] using hcounterpart
      rcases rangeText_cases ignoreCase rule left right with ⟨-, hok⟩ | ⟨hbad, -⟩
      · exact hok
      · exact absurd hends (Decidable.not_and_iff_or_not.mpr hbad)
  | literal image =>
      have himage : image ≠ "" := by simpa [Regex.hasCounterpart] using hcounterpart
      rw [lexerBody, if_neg himage]
      exact ⟨_, rfl⟩
  | reference label =>
      rw [lexerBody]
      exact ⟨_, rfl⟩
  | _ => first | exact Bool.noConfusion hcounterpart | exact Bool.noConfusion hleaf

lemma exists_lexerBody (h : node.IsConvertible) :
    ∃ text, lexerBody (tokenContext ignoreCase rule) node = .ok text := by
  induction h with
  | @node node hcounterpart hadmits _ ih =>
      cases hcomposite : node.isComposite with
      | false => exact exists_lexerBody_of_leaf hcomposite hcounterpart
      | true =>
          obtain ⟨texts, htexts⟩ := exists_lexerBodies ih
          rw [lexerBody_of_isComposite _ hcomposite, checkParts_ok hadmits, htexts]
          exact ⟨_, rfl⟩

lemma lexerBody_of_meetsLongEnd (h : node.MeetsLongEnd) :
    lexerBody (tokenContext ignoreCase rule) node = .error .notOneCharacter := by
  induction h with
  | @range left right hend =>
      rw [lexerBody]
      rcases rangeText_cases ignoreCase rule left right with ⟨hboth, -⟩ | ⟨-, herror⟩
      · exact absurd hboth (Decidable.not_and_iff_or_not.mpr hend)
      · exact herror
  | @inside node part before after hadmits hparts hbefore _ ih =>
      have hcomposite : node.isComposite = true := by
        cases node <;> first | rfl | simp [Regex.parts] at hparts
      rw [lexerBody_of_isComposite _ hcomposite, checkParts_ok hadmits, hparts,
        lexerBodies_eq_error (fun earlier hearlier => exists_lexerBody (hbefore earlier hearlier)) ih]
      rfl

/-- **A tree fails without a conversion error if and only if it meets a long end,** whether case
matters or not. -/
lemma lexerBody_eq_notOneCharacter_iff (hnode : node.isNode = true) :
    lexerBody (tokenContext ignoreCase rule) node = .error .notOneCharacter ↔
      node.MeetsLongEnd := by
  refine ⟨fun herror => ?_, lexerBody_of_meetsLongEnd⟩
  have hfate := lexerBody_fate ignoreCase rule node hnode
  rw [herror] at hfate
  cases hfate with
  | longEnd h => exact h
  | refused h => cases h

end Trees

end GrammarConversion.Conversion
