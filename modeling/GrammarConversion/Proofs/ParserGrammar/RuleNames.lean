import GrammarConversion.Proofs.LexerState.Moves
import GrammarConversion.Proofs.ParserRule.Elements

/-!
# Names of parser rules

Rules of a parser and calls of them are named independently, but by the same function of the name
of a production, whether the call is a node of the tree or stands in embedded code.  So a call
always shows the name of the rule for the production that it calls.

What the function does not do is keep names apart: a first capital letter becomes a small one, and
another production may have just that name.  Unlike a mode of a lexer, a parser takes a second rule
under a name that it has already, and a call then means either of them (`callsResolve_clash`).

**`nodup_and_callsResolve_iff`: nothing else makes a call ambiguous.**
-/

namespace GrammarConversion.Conversion

open Antlr
open Model

/-- **Whether a name belongs to the rule for a production and to no other rule,** where the rules
stand in the order of the productions. -/
def NamesOnly (grammar : Grammar) (rules : List Rule) (called name : String) : Prop :=
  ∃ position, grammar.productionNames[position]? = some called ∧
    ∀ other : Nat, rules[other]?.map Rule.name = some name ↔ other = position

/-- **Whether every call names the rule for the production that it calls,** and no other rule. -/
def CallsResolve (grammar : Grammar) (pair : GrammarPair) : Prop :=
  ∀ production ∈ grammar.bnfProductions,
    List.Forall₂ (fun symbol element => ∀ called, symbol = .call called →
        NamesOnly grammar pair.parser.rules called element)
      (production.symbols grammar) (ruleElements grammar pair.lexer production)

section Names

variable {grammar : Grammar} {lexer : LexerGrammar} {pair : GrammarPair} {rules : List Rule}

/-- **Rules are named after their productions.** -/
lemma map_name_of_forall₂ {productions : List BnfProduction}
    (h : List.Forall₂ (IsRuleFor grammar lexer) productions rules) :
    rules.map Rule.name = (productions.map BnfProduction.name).map parserRuleName := by
  induction h with
  | nil => rfl
  | cons hrule _ ih => rw [List.map_cons, List.map_cons, List.map_cons, hrule.name, ih]

/-- Of rules with different names one is found by the name of a production. -/
lemma namesOnly_of_nodup {called : String}
    (hnames : rules.map Rule.name = grammar.productionNames.map parserRuleName)
    (hnodup : (grammar.productionNames.map parserRuleName).Nodup)
    (hcalled : called ∈ grammar.productionNames) :
    NamesOnly grammar rules called (parserRuleName called) := by
  rcases List.mem_iff_getElem?.mp hcalled with ⟨position, hposition⟩
  have hname : (grammar.productionNames.map parserRuleName)[position]?
      = some (parserRuleName called) := by
    rw [List.getElem?_map, hposition, Option.map_some]
  refine ⟨position, hposition, fun other => ?_⟩
  rw [← List.getElem?_map, hnames]
  constructor
  · intro hother
    exact (List.getElem?_inj (List.getElem?_eq_some_iff.mp hother).1 hnodup).mp
      (hother.trans hname.symm)
  · rintro rfl
    exact hname

/-- **Calls are ambiguous only where productions get the same name.**  A parser has one rule for
each production, in the same order.  Its rules have different names, and every call names the one
rule for the production that it calls, if and only if the productions have different names as names
of rules. -/
theorem nodup_and_callsResolve_iff {name : String} (h : (convert name grammar).result = .ok pair) :
    List.Forall₂ (IsRuleFor grammar pair.lexer) grammar.bnfProductions pair.parser.rules ∧
      ((pair.parser.rules.map Rule.name).Nodup ∧ CallsResolve grammar pair ↔
        (grammar.productionNames.map parserRuleName).Nodup) := by
  rcases of_convert_eq_ok h with ⟨space, -, -, hparser⟩
  have hrules := forall₂_of_parserRules hparser
  have hnames : pair.parser.rules.map Rule.name = grammar.productionNames.map parserRuleName :=
    map_name_of_forall₂ hrules
  refine ⟨hrules, ⟨fun hboth => hnames ▸ hboth.1, fun hnodup => ⟨hnames ▸ hnodup, ?_⟩⟩⟩
  intro production hproduction
  rcases exists_isRuleFor hrules production hproduction with ⟨rule, hrule⟩
  refine hrule.forall₂_symbols fun symbol hsymbol element helement called hcall => ?_
  subst hcall
  rw [← Option.some.inj helement]
  exact namesOnly_of_nodup hnames hnodup (mem_productionNames_of_call hsymbol)

end Names

/-- Two productions, one of which calls the other from embedded code. -/
def callingGrammar : Grammar :=
  { tokenProductions := []
    bnfProductions :=
      [{ name := "Unit"
         tree := .expansion (.action
           [⟨.identifier, "Block"⟩, ⟨.operator, "("⟩, ⟨.operator, ")"⟩]) },
       { name := "Block", tree := .expansion (.zeroOrMore (.nonTerminal "Block")) }] }

set_option maxRecDepth 2000 in
theorem callsResolve_callingGrammar :
    ∃ pair, (convert "G" callingGrammar).result = .ok pair ∧
      pair.parser.rules.map Rule.name = ["unit", "block"] ∧ CallsResolve callingGrammar pair := by
  have hok : (convert "G" callingGrammar).result = .ok
      ⟨{ name := "GLexer" },
        { name := "GParser"
          rules := [{ name := "unit", body := .text "block" },
            { name := "block", body := .text "block*" }] }⟩ := by cbv
  have hnodup : (callingGrammar.productionNames.map parserRuleName).Nodup := by
    decide +kernel
  exact ⟨_, hok, rfl, ((nodup_and_callsResolve_iff hok).2.mpr hnodup).2⟩

/-- Two productions whose names differ in the case of the first letter only. -/
def clashingProductions : Grammar :=
  { tokenProductions := []
    bnfProductions :=
      [{ name := "Unit", tree := .expansion .endOfFile },
       { name := "unit", tree := .expansion (.nonTerminal "Unit") }] }

set_option maxRecDepth 2000 in
/-- **Two rules may have one name:** the productions are different, and the conversion goes
through, but the call may mean either rule. -/
theorem callsResolve_clash :
    clashingProductions.productionNames.Nodup ∧
      ∃ pair, (convert "G" clashingProductions).result = .ok pair ∧
        ¬(pair.parser.rules.map Rule.name).Nodup ∧ ¬CallsResolve clashingProductions pair := by
  have hok : (convert "G" clashingProductions).result = .ok
      ⟨{ name := "GLexer" },
        { name := "GParser"
          rules := [{ name := "unit", body := .text "EOF" },
            { name := "unit", body := .text "unit" }] }⟩ := by cbv
  refine ⟨by decide, _, hok, by decide, fun hresolve => ?_⟩
  have hcalls := hresolve { name := "unit", tree := .expansion (.nonTerminal "Unit") }
    (by simp [clashingProductions])
  have hsymbols : BnfProduction.symbols clashingProductions
      { name := "unit", tree := .expansion (.nonTerminal "Unit") } = [.call "Unit"] := rfl
  have helements : ruleElements clashingProductions { name := "GLexer" }
      { name := "unit", tree := .expansion (.nonTerminal "Unit") } = ["unit"] := by cbv
  rw [hsymbols, helements] at hcalls
  rcases (List.forall₂_cons.mp hcalls).1 "Unit" rfl with ⟨position, -, honly⟩
  have hfirst : 0 = position := (honly 0).mp rfl
  have hsecond : 1 = position := (honly 1).mp rfl
  omega

end GrammarConversion.Conversion
