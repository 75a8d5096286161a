import GrammarConversion.Proofs.LexerRule.LiteralCase
import GrammarConversion.Proofs.LexerState.Failures
import GrammarConversion.Proofs.LexerState.Literals
import GrammarConversion.Proofs.LexerState.Reachable

/-!
# Literals that are promoted and literals that are found

Two searches ask whether there is a token rule for a literal.  Before a literal of a BNF production
is promoted, the body is looked for that it has in its own case.  When a parser refers to a literal,
the body with case is looked for and then, where letter rules have been enabled, the one without.

**`promotion_agrees_iff`: a literal gets a rule although one is found for it exactly if there is one
for its body in the other case.**  So the searches agree on literals without letters.  On others
they need not (`promotion_disagrees`).
-/

namespace GrammarConversion.Antlr.LexerGrammar

variable {lexer : LexerGrammar} {content image : String} {ignoreCase : Bool}

/-! ## Searches that find nothing -/

lemma ruleForBody?_eq_none_iff : lexer.ruleForBody? (.text content) = none ↔
    ∀ rule ∈ lexer.rules, rule.isFragment = false → ¬rule.Covers (.text content) := by
  constructor
  · intro hnone rule hrule htoken hcovers
    rcases exists_ruleForBody? hrule htoken hcovers with ⟨found, hfound⟩
    exact absurd (hfound.symm.trans hnone) (Option.some_ne_none found)
  · intro h
    by_contra hne
    rcases Option.ne_none_iff_exists'.mp hne with ⟨rule, hfound⟩
    rcases of_ruleForBody?_eq_some hfound with ⟨hrule, htoken, hcovers⟩
    exact h rule hrule htoken hcovers

/-- **Whether a token rule matches a literal in the other case** than its own, and is looked for:
the case without letters is only asked for where letter rules have been enabled. -/
def MatchesOtherCase (lexer : LexerGrammar) (ignoreCase : Bool) (image : String) : Prop :=
  (ignoreCase = true ∨ lexer.caseInsensitive = true) ∧
    ∃ rule ∈ lexer.rules, rule.isFragment = false ∧
      rule.Covers (.text (literalBody (!ignoreCase) image))

/-- **A literal without a rule in its own case** is found exactly if it has one in the other. -/
lemma ruleForImage?_eq_none_iff
    (hown : lexer.ruleForBody? (.text (literalBody ignoreCase image)) = none) :
    lexer.ruleForImage? image = none ↔ ¬lexer.MatchesOtherCase ignoreCase image := by
  have hother : (∃ rule ∈ lexer.rules, rule.isFragment = false ∧
      rule.Covers (.text (literalBody (!ignoreCase) image)))
        ↔ lexer.ruleForBody? (.text (literalBody (!ignoreCase) image)) ≠ none := by
    rw [Ne, ruleForBody?_eq_none_iff]
    simp
  rw [MatchesOtherCase, hother, ruleForImage?]
  cases ignoreCase with
  | false =>
      rw [hown]
      cases lexer.caseInsensitive <;> simp
  | true =>
      rw [Bool.not_true]
      cases lexer.ruleForBody? (.text (literalBody false image)) with
      | none => simp [hown]
      | some found => simp

end GrammarConversion.Antlr.LexerGrammar

namespace GrammarConversion.Conversion

open Antlr
open LexerGrammar
open Model
open Reading

section Promotion

variable {settings : TokenSettings} {production : TokenProduction} {spec : TokenSpec}
  {image : String} {start space : Workspace} {turn : Nat}

/-- **The workspace after the turns of the first literals** of a production. -/
def promotedUpTo (settings : TokenSettings) (production : TokenProduction) (start : Workspace)
    (count : Nat) : Workspace :=
  (promoteSpecs settings production (production.specs.take count) start).1

/-- **Whether a literal gets a rule** when its turn comes. -/
def AddsRule (settings : TokenSettings) (production : TokenProduction) (start : Workspace)
    (turn : Nat) : Prop :=
  (promotedUpTo settings production start (turn + 1)).lexer.rules
    ≠ (promotedUpTo settings production start turn).lexer.rules

lemma addsRule_of_append (added : Rule)
    (h : (promotedUpTo settings production start (turn + 1)).lexer.rules
      = (promotedUpTo settings production start turn).lexer.rules ++ [added]) :
    AddsRule settings production start turn := by
  rw [AddsRule, h]
  simp

/-! ## The turn of a literal -/

/-- **The turn of a literal comes after those before it,** unless one of them fails. -/
lemma promotedUpTo_succ (hspec : production.specs[turn]? = some spec) :
    promotedUpTo settings production start (turn + 1)
      = promotedUpTo settings production start turn ∨
    promotedUpTo settings production start (turn + 1)
      = (promoteSpecs settings production [spec]
          (promotedUpTo settings production start turn)).1 := by
  have hsequential := (convertsSpecs_promoteSpecs settings production).sequential
  rw [promotedUpTo, promotedUpTo, List.take_add_one, hspec, Option.toList_some,
    hsequential.append]
  -- where a literal before has failed, no turn comes any more
  rcases promoteSpecs settings production (production.specs.take turn) start
    with ⟨mid, failure | _⟩
  · exact .inl rfl
  · exact .inr rfl

/-- **A literal is only promoted if no rule is found for it in its own case.** -/
lemma of_promoteSpecs_ne (hliteral : spec.tree = .regex (.literal image))
    (h : (promoteSpecs settings production [spec] space).1 ≠ space) :
    image ≠ "" ∧ space.lexer.ruleForBody? (.text (literalBody
      (settings.ignoreCase || production.ignoreCase || spec.ignoreCase) image)) = none := by
  cases hbody : specBody settings production spec with
  | error failure =>
      rw [promoteSpecs, hbody] at h
      exact absurd rfl h
  | ok body =>
      rcases specBody_of_literal hliteral hbody with ⟨hne, rfl⟩
      refine ⟨hne, ?_⟩
      by_contra hfound
      rw [promoteSpecs_cons hbody, if_pos (Option.isSome_iff_ne_none.mpr hfound)] at h
      exact h rfl

lemma of_addsRule (hspec : production.specs[turn]? = some spec)
    (hliteral : spec.tree = .regex (.literal image))
    (hadds : AddsRule settings production start turn) :
    image ≠ "" ∧ (promotedUpTo settings production start turn).lexer.ruleForBody?
      (.text (literalBody (settings.ignoreCase || production.ignoreCase || spec.ignoreCase) image))
        = none := by
  refine of_promoteSpecs_ne hliteral fun hsame => hadds ?_
  rcases promotedUpTo_succ hspec with hstays | hturn
  · rw [hstays]
  · rw [hturn, hsame]

/-- **Promotion agrees with resolution up to the other case.**  A literal only gets a rule if none
is found for it in its own case.  Then a parser finds none for it exactly if no token rule matches
it in the other case; for a literal without letters it never does. -/
theorem promotion_agrees_iff (hspec : production.specs[turn]? = some spec)
    (hliteral : spec.tree = .regex (.literal image))
    (hadds : AddsRule settings production start turn) :
    let lexer := (promotedUpTo settings production start turn).lexer
    let ignoreCase := settings.ignoreCase || production.ignoreCase || spec.ignoreCase
    lexer.ruleForBody? (.text (literalBody ignoreCase image)) = none ∧
      (lexer.ruleForImage? image = none ↔ ¬lexer.MatchesOtherCase ignoreCase image) ∧
      ((∀ c ∈ image.toList, isLetter c = false) → lexer.ruleForImage? image = none) := by
  intro lexer ignoreCase
  rcases of_addsRule hspec hliteral hadds with ⟨hne, hown⟩
  refine ⟨hown, ruleForImage?_eq_none_iff hown, fun hplain => ?_⟩
  rw [ruleForImage?_eq_none_iff hown]
  rintro ⟨-, rule, hrule, htoken, hcovers⟩
  -- the bodies in both cases are the same one
  rw [literalBody_of_not_isLetter hne hplain, ← literalBody_of_not_isLetter hne hplain ignoreCase]
    at hcovers
  exact ruleForBody?_eq_none_iff.mp hown rule hrule htoken hcovers

end Promotion

/-- A word, as a token of a label or as a literal of a BNF production. -/
def wordProduction (label : Option String) (ignoreCase : Bool) : TokenProduction :=
  { kind := .known .token
    listedStates := ["DEFAULT"]
    specs := [{ tree := .regex (.literal "abc"), label := label }]
    ignoreCase := ignoreCase
    isExplicit := label.isSome }

/-- A lexer with letter rules and no others. -/
def letterSpace : Workspace :=
  { lexer := ({ name := "L" } : LexerGrammar).enableLetters }

/-- A word that no rule matches in any case is promoted, and has not been found before. -/
theorem promotion_agrees_word :
    (promotedUpTo {} (wordProduction none true) letterSpace 0).lexer.ruleForImage? "abc"
      = none := by
  have hadds : AddsRule {} (wordProduction none true) letterSpace 0 :=
    addsRule_of_append { name := "TOKEN0", body := .text "A B C" } rfl
  refine (promotion_agrees_iff rfl rfl hadds).2.1.mpr ?_
  rintro ⟨-, rule, hrule, -⟩
  exact absurd hrule List.not_mem_nil

/-- A lexer with a rule for the word. -/
def wordSpace (ignoreCase : Bool) : Workspace :=
  (mapProduction {} (wordProduction (some "WORD") ignoreCase) letterSpace).1

lemma reachable_wordSpace (ignoreCase : Bool) : Reachable {} (wordSpace ignoreCase) :=
  .mapped (.lettersEnabled (.fresh "L" [] [])) _

/-- Whether the word is promoted from a workspace although a rule is found for it. -/
def IsPromotedThoughFound (ignoreCase : Bool) (start : Workspace) : Prop :=
  AddsRule {} (wordProduction none ignoreCase) start 0 ∧
    ∃ rule, (promotedUpTo {} (wordProduction none ignoreCase) start 0).lexer.ruleForImage? "abc"
      = some rule

/-- **Promotion does not agree with resolution in the other case:** a word where case matters gets
a second rule after one where it does not, and the other way round. -/
theorem promotion_disagrees :
    (Reachable {} (wordSpace true) ∧ IsPromotedThoughFound false (wordSpace true)) ∧
      Reachable {} (wordSpace false) ∧ IsPromotedThoughFound true (wordSpace false) := by
  refine ⟨⟨reachable_wordSpace true, ?_, ?_⟩, reachable_wordSpace false, ?_, ?_⟩
  · exact addsRule_of_append { name := "TOKEN0", body := .text "'abc'" } rfl
  · exact ⟨{ name := "WORD", body := .text "A B C" }, rfl⟩
  · exact addsRule_of_append { name := "TOKEN0", body := .text "A B C" } rfl
  · exact ⟨{ name := "WORD", body := .text "'abc'" }, rfl⟩

end GrammarConversion.Conversion
