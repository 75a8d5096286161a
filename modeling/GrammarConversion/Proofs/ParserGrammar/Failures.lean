import Mathlib
import GrammarConversion.Proofs.LexerState.Failures
import GrammarConversion.Proofs.ParserRule.Failures

/-!
# Grammars that cannot be converted

A conversion that fails says what is wrong with the grammar, whatever stands inside the trees of its
productions: a construct without a counterpart, a node that is not formed as it should be, a literal
without a token, or two rules for one name.

There is one exception.  A range whose ends are not characters is met with a failure that is no
conversion error, unless something before it is refused first (`convert_notOneCharacter`).

**`isOfGrammar_iff_not_stopsAtLongEnd`: there is no other exception.**
-/

namespace GrammarConversion.Conversion

open Antlr
open Model

/-- **A grammar whose token productions hold regular expressions and whose BNF productions hold
expansions.**  Nothing is said of what these trees hold in turn. -/
structure HoldsNodes (grammar : Grammar) : Prop where
  tokens : ∀ production ∈ grammar.tokenProductions, ∀ spec ∈ production.specs, HoldsRegex spec
  productions : ∀ production ∈ grammar.bnfProductions, HoldsExpansion production

section Grammars

variable {grammar : Grammar} {name : String} {failure : Failure}

/-- A conversion fails where that of the tokens does, or where that of the productions does. -/
lemma cases_of_convert_error (h : (convert name grammar).result = .error failure) :
    (convertTokens (name ++ "Lexer") grammar).2 = .error failure ∨
      parserRules grammar (convertTokens (name ++ "Lexer") grammar).1.lexer grammar.bnfProductions
        = .error failure := by
  rw [convert] at h
  dsimp only at h
  split at h
  · rename_i herror
    obtain rfl := Except.error.inj h
    exact .inl herror
  · right
    cases hrules : parserRules grammar (convertTokens (name ++ "Lexer") grammar).1.lexer
        grammar.bnfProductions with
    | error failure' =>
        rw [hrules] at h
        obtain rfl := Except.error.inj h
        rfl
    | ok rules =>
        rw [hrules] at h
        cases h

lemma convert_error_of_convertTokens
    (h : (convertTokens (name ++ "Lexer") grammar).2 = .error failure) :
    (convert name grammar).result = .error failure := by
  rw [convert]
  dsimp only
  rw [h]

/-- **Every failure is a conversion error, but for one.**  Let the productions of a grammar hold
trees of their kinds.  Then whatever the conversion fails with is a conversion error if and only if
it does not stop at a range whose ends are not characters. -/
theorem isOfGrammar_iff_not_stopsAtLongEnd (name : String) (hnodes : HoldsNodes grammar) :
    (∀ failure, (convert name grammar).result = .error failure → failure.IsOfGrammar) ↔
      ¬StopsAtLongEnd (tokenSettings grammar) grammar.tokenProductions
        (initialWorkspace (name ++ "Lexer") grammar) := by
  constructor
  · intro hall hstops
    have herror : (convertTokens (name ++ "Lexer") grammar).2 = .error .notOneCharacter :=
      hstops.convertTokenProductions_error
    cases hall _ (convert_error_of_convertTokens herror) with
    | refused hrefuses => cases hrefuses
  · intro hstops failure herror
    rcases cases_of_convert_error herror with htokens | hrules
    · exact (cases_of_convertTokenProductions_error hnodes.tokens htokens).resolve_right
        fun hlong => hstops hlong.2
    · have hanswers : Answers (fun _ => True) (parserRules grammar
          (convertTokens (name ++ "Lexer") grammar).1.lexer grammar.bnfProductions) :=
        answers_parserRules hnodes.productions
      rw [hrules] at hanswers
      exact hanswers

end Grammars

/-- A token for the characters of a range, and a production with a literal that no token matches. -/
def rangeGrammar (left right : String) : Grammar :=
  { tokenProductions :=
      [{ kind := .known .token
         listedStates := ["DEFAULT"]
         specs :=
          [{ tree := .regex (.charList [.range left right] (some false)), label := some "A" }] }]
    bnfProductions := [{ name := "start", tree := .expansion (.literal "+") }] }

lemma holdsNodes_rangeGrammar (left right : String) : HoldsNodes (rangeGrammar left right) := by
  refine ⟨fun production hproduction spec hspec => ?_, fun production hproduction => ?_⟩
  · obtain rfl := List.mem_singleton.mp hproduction
    obtain rfl := List.mem_singleton.mp hspec
    exact ⟨_, rfl, rfl⟩
  · obtain rfl := List.mem_singleton.mp hproduction
    exact ⟨_, rfl, rfl⟩

/-- The literal is reported. -/
theorem isOfGrammar_rangeGrammar :
    (∃ failure, (convert "G" (rangeGrammar "a" "z")).result = .error failure) ∧
      ∀ failure, (convert "G" (rangeGrammar "a" "z")).result = .error failure →
        failure.IsOfGrammar := by
  refine ⟨⟨.conversion (.unresolvedLiteral "+" (some "start")), by cbv⟩,
    (isOfGrammar_iff_not_stopsAtLongEnd "G" (holdsNodes_rangeGrammar "a" "z")).mpr ?_⟩
  rintro ⟨earlier, production, later, specs, spec, specs', hproductions, hspecs, -, node, htree,
    hlong⟩
  have hproduction : production ∈ (rangeGrammar "a" "z").tokenProductions := by simp [hproductions]
  have hspec : spec ∈ production.specs := by simp [hspecs]
  obtain rfl := List.mem_singleton.mp hproduction
  obtain rfl := List.mem_singleton.mp hspec
  obtain rfl := Tree.regex.inj htree
  have herror : lexerBody (tokenContext false none) (.charList [.range "a" "z"] (some false))
      = .error .notOneCharacter := lexerBody_of_meetsLongEnd hlong
  cases herror

/-- **A failure need not be a conversion error:** the first end of the range is two characters. -/
theorem convert_notOneCharacter :
    HoldsNodes (rangeGrammar "ab" "z") ∧
      (convert "G" (rangeGrammar "ab" "z")).result = .error .notOneCharacter ∧
        ¬Failure.IsOfGrammar .notOneCharacter := by
  refine ⟨holdsNodes_rangeGrammar "ab" "z", rfl, fun hgrammar => ?_⟩
  cases hgrammar with
  | refused hrefuses => cases hrefuses

end GrammarConversion.Conversion
