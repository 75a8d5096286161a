import GrammarConversion.Conversion.Grammar
import GrammarConversion.Proofs.LexerRule.Failures

/-!
# BNF productions that cannot be converted

Inside the scope of a grammar each node of an expansion is converted or refused, whatever stands in
the places of its parts.  What is converted can be written, since nothing makes a part of no known
form.

`Answers` says so of one result.  It holds along a sequence of operations if it holds of each
(`Answers.bind`), so the proof follows the functions operation by operation.  Of the parts it needs
only that whatever the conversion does keeps their property (`IsKept`), as it does with that of
having a written form.

**`answers_parserRules`: productions whose trees are expansions become rules, or the failure is a
conversion error.**
-/

namespace GrammarConversion.Conversion

open Antlr
open Model

/-- **Whether a result is a value with a property,** or a conversion error. -/
def Answers {α : Type} (holds : α → Prop) : Except Failure α → Prop
  | .ok value => holds value
  | .error failure => failure.IsOfGrammar

lemma Answers.bind {α β : Type} {holds : α → Prop} {holds' : β → Prop}
    {result : Except Failure α} {next : α → Except Failure β} (h : Answers holds result)
    (hnext : ∀ value, holds value → Answers holds' (next value)) :
    Answers holds' (result >>= next) := by
  cases result with
  | error failure => exact h
  | ok value => exact hnext value h

/-! ## Parts that can be written -/

/-- Whether a part of a parser rule has a written form. -/
def HasText (part : Component) : Prop :=
  ∃ text, part.text? = some text

section Parts

variable {part : Component} {parts : List Component}

lemma exists_texts?_of_hasText (h : ∀ part ∈ parts, HasText part) :
    ∃ texts, Component.texts? parts = some texts := by
  induction parts with
  | nil => exact ⟨[], by rw [Component.texts?]⟩
  | cons part parts ih =>
      rcases List.forall_mem_cons.mp h with ⟨⟨text, htext⟩, hparts⟩
      rcases ih hparts with ⟨texts, htexts⟩
      exact ⟨text :: texts, by rw [Component.texts?, htext, htexts]⟩

lemma hasText_sequence {quantifier : Option Quantifier} (h : ∀ part ∈ parts, HasText part) :
    HasText (.sequence parts quantifier) := by
  rcases exists_texts?_of_hasText h with ⟨texts, htexts⟩
  exact ⟨_, by rw [Component.text?, htexts]; rfl⟩

lemma hasText_choice {quantifier : Option Quantifier} (h : ∀ part ∈ parts, HasText part) :
    HasText (.choice parts quantifier) := by
  rcases exists_texts?_of_hasText h with ⟨texts, htexts⟩
  exact ⟨_, by rw [Component.text?, htexts]; rfl⟩

lemma hasText_nameElement (name : String) : HasText (nameElement name) :=
  ⟨_, by rw [nameElement, Component.text?]⟩

lemma hasText_withQuantifier (h : HasText part) (quantifier : Option Quantifier) :
    HasText (part.withQuantifier quantifier) := by
  rcases h with ⟨text, htext⟩
  cases part with
  | element name own => exact ⟨_, by rw [Component.withQuantifier, Component.text?]⟩
  | sequence children own =>
      rw [Component.text?] at htext
      rcases Option.map_eq_some_iff.mp htext with ⟨texts, htexts, -⟩
      exact ⟨_, by rw [Component.withQuantifier, Component.text?, htexts]; rfl⟩
  | choice children own =>
      rw [Component.text?] at htext
      rcases Option.map_eq_some_iff.mp htext with ⟨texts, htexts, -⟩
      exact ⟨_, by rw [Component.withQuantifier, Component.text?, htexts]; rfl⟩
  | unknown own =>
      rw [Component.text?] at htext
      cases htext

lemma hasText_quantified (h : HasText part) (quantifier : Option Quantifier) :
    HasText (part.quantified quantifier) := by
  cases quantifier with
  | none => exact h
  | some quantifier =>
      rw [Component.quantified]
      split
      · exact hasText_withQuantifier h (some quantifier)
      · exact hasText_sequence (by simpa using h)

end Parts

/-! ## What the conversion does with parts -/

/-- **Whether all that the conversion does with parts keeps a property of them:** naming a rule or a
token, quantifying a part, and putting two parts or more next to each other. -/
structure IsKept (holds : Component → Prop) : Prop where
  name : ∀ name, holds (nameElement name)
  quantified : ∀ {part}, holds part → ∀ q, holds (part.quantified q)
  sequence : ∀ {parts : List Component}, 2 ≤ parts.length → (∀ part ∈ parts, holds part) →
    holds (.sequence parts none)
  choice : ∀ {parts : List Component}, 2 ≤ parts.length → (∀ part ∈ parts, holds part) →
    ∀ q, holds (.choice parts q)

/-- Whether all that comes of an expansion has a property. -/
def HoldsOfPart (holds : Component → Prop) (result : Option Component) : Prop :=
  ∀ part ∈ result, holds part

lemma isKept_hasText : IsKept HasText where
  name := hasText_nameElement
  quantified := hasText_quantified
  sequence := fun _ => hasText_sequence
  choice := fun _ h _ => hasText_choice h

section Kept

variable {holds : Component → Prop} {parts : List Component} {result : Option Component}

lemma holdsOfPart_none : HoldsOfPart holds none := by
  simp [HoldsOfPart]

lemma IsKept.of_name (hkept : IsKept holds) (name : String) :
    HoldsOfPart holds (some (nameElement name)) := by
  simpa [HoldsOfPart] using hkept.name name

lemma IsKept.joined (hkept : IsKept holds) (h : ∀ part ∈ parts, holds part) :
    HoldsOfPart holds (joined parts) := by
  match parts with
  | [] => exact holdsOfPart_none
  | [only] => simpa [HoldsOfPart, Conversion.joined] using h
  | first :: second :: others =>
      simpa [HoldsOfPart, Conversion.joined] using hkept.sequence (by simp) h

lemma IsKept.alternatives (hkept : IsKept holds) {count : Nat} (h : ∀ part ∈ parts, holds part) :
    HoldsOfPart holds (alternatives count parts) := by
  match parts with
  | [] => exact holdsOfPart_none
  | [only] =>
      have honly := hkept.quantified (h only List.mem_cons_self)
      simpa [HoldsOfPart, Conversion.alternatives] using honly _
  | first :: second :: others =>
      simpa [HoldsOfPart, Conversion.alternatives] using hkept.choice (by simp) h _

lemma IsKept.map_quantified (hkept : IsKept holds) (h : HoldsOfPart holds result)
    (q : Option Quantifier) :
    HoldsOfPart holds (result.map fun part => part.quantified q) := by
  cases result with
  | none => exact holdsOfPart_none
  | some part => simpa [HoldsOfPart] using hkept.quantified (h part rfl) q

end Kept

/-! ## Expansions -/

section Expansions

variable {holds : Component → Prop} (scope : Scope) (rule : Option String)

/-- An operand is refused if it is no expansion. -/
lemma answers_operandBody {context : ExpansionContext} {operand : Expansion} (kind : String)
    (h : operand.isExpansion = true →
      Answers (HoldsOfPart holds) (parserBody context operand)) :
    Answers (HoldsOfPart holds) (operandBody context kind operand) := by
  rw [operandBody]
  split
  · exact h ‹_›
  · exact .refused (.malformed _ _)

mutual

/-- **An expansion is converted or refused,** and what it is converted to has any property that is
kept. -/
lemma answers_parserBody (hkept : IsKept holds) : ∀ node : Expansion, node.isExpansion = true →
    Answers (HoldsOfPart holds) (parserBody { scope := some scope, rule := rule } node)
  | .sequence units, _ => by
      rw [parserBody]
      exact (answers_parserBodies hkept "Sequence" units).bind fun _ hparts => hkept.joined hparts
  | .choice branches, _ => by
      rw [parserBody]
      split
      · exact .refused (.malformed _ _)
      · exact (answers_parserBodies hkept "Choice" branches).bind
          fun _ hparts => hkept.alternatives hparts
  | .lookahead amount, _ => by
      rw [parserBody]
      exact holdsOfPart_none
  | .action tokens, _ => by
      rw [parserBody]
      refine hkept.joined fun part hpart => ?_
      rcases List.mem_map.mp hpart with ⟨name, -, rfl⟩
      exact hkept.name _
  | .nonTerminal name, _ => by
      rw [parserBody]
      show Answers (HoldsOfPart holds) (if name ∈ scope.productions then _ else _)
      split
      · exact hkept.of_name _
      · exact holdsOfPart_none
  | .zeroOrOne operand, _ => by
      rw [parserBody]
      exact (answers_operandBody _ (answers_parserBody hkept operand)).bind
        fun _ hinner => hkept.map_quantified hinner _
  | .zeroOrMore operand, _ => by
      rw [parserBody]
      exact (answers_operandBody _ (answers_parserBody hkept operand)).bind
        fun _ hinner => hkept.map_quantified hinner _
  | .oneOrMore operand, _ => by
      rw [parserBody]
      exact (answers_operandBody _ (answers_parserBody hkept operand)).bind
        fun _ hinner => hkept.map_quantified hinner _
  | .tryBlock operand, _ => by
      rw [parserBody]
      exact answers_operandBody _ (answers_parserBody hkept operand)
  | .literal image, _ => by
      rw [parserBody]
      show Answers (HoldsOfPart holds) (match scope.lexer.ruleForImage? image with
        | some rule => _
        | none => _)
      split
      · exact hkept.of_name _
      · exact .unresolvedLiteral _ _
  | .reference label, _ => by
      rw [parserBody]
      exact hkept.of_name _
  | .endOfFile, _ => by
      rw [parserBody]
      exact hkept.of_name _
  | .unknown, _ => by
      rw [parserBody]
      exact .refused (.unsupported _)
  | .foreign value, h => by cases h

lemma answers_parserBodies (hkept : IsKept holds) (kind : String) : ∀ nodes : List Expansion,
    Answers (fun parts => ∀ part ∈ parts, holds part)
      (parserBodies { scope := some scope, rule := rule } kind nodes)
  | [] => by
      rw [parserBodies]
      exact fun _ hnone => absurd hnone List.not_mem_nil
  | node :: nodes => by
      rw [parserBodies]
      refine (answers_operandBody kind (answers_parserBody hkept node)).bind fun part hpart => ?_
      refine (answers_parserBodies hkept kind nodes).bind fun parts hparts => ?_
      intro other hother
      rcases List.mem_append.mp hother with hother | hother
      · exact hpart other (by simpa using hother)
      · exact hparts other hother

end

end Expansions

/-! ## Productions -/

/-- **Whether the tree of a BNF production is an expansion.** -/
def HoldsExpansion (production : BnfProduction) : Prop :=
  ∃ node, production.tree = .expansion node ∧ node.isExpansion = true

section Productions

variable {grammar : Grammar} {lexer : LexerGrammar}

lemma answers_productionBody {production : BnfProduction} (h : HoldsExpansion production) :
    Answers (fun _ => True)
      (productionBody (productionContext grammar lexer production) production) := by
  rcases h with ⟨node, htree, hnode⟩
  rw [productionBody, htree]
  refine (answers_parserBody _ _ isKept_hasText node hnode).bind fun part hpart => ?_
  cases part with
  | none => exact trivial
  | some component =>
      rcases hpart component rfl with ⟨text, htext⟩
      dsimp only
      rw [htext]
      exact trivial

/-- **Productions that hold expansions become rules,** or the failure is a conversion error. -/
lemma answers_parserRules {productions : List BnfProduction}
    (h : ∀ production ∈ productions, HoldsExpansion production) :
    Answers (fun _ => True) (parserRules grammar lexer productions) := by
  induction productions with
  | nil => exact trivial
  | cons production productions ih =>
      rcases List.forall_mem_cons.mp h with ⟨hproduction, hproductions⟩
      rw [parserRules]
      exact (answers_productionBody hproduction).bind fun _ _ =>
        (ih hproductions).bind fun _ _ => trivial

end Productions

end GrammarConversion.Conversion
