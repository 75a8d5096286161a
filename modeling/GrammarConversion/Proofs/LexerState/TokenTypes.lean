import GrammarConversion.Proofs.LexerState.Literals

/-!
# The types of the rules that literals refer to

A rule that refers to another one from a lexical state gives its tokens the type of the other one.
So the parser should never be told to expect the former: the lexer sends no tokens of that type.

Literals and names can hardly be confused, since the body of a literal shows quotes or spaces where
names show neither (`bareNames_of_convertTokens`).  The exception is a letter that is matched in
either case.  Its body is the name of the letter, and so is the body of a rule that refers to the
token of that name; of two such rules the look-up takes the first.

**`ruleForImage?_not_namesOther_iff`: only a letter can refer to a rule that gives another type,**
and it does so if the first token rule whose body is the letter gives the type of the letter.
-/

namespace GrammarConversion.Antlr

/-- **Whether a rule gives its tokens the type of another rule.** -/
def Rule.NamesOther (rule : Rule) : Prop :=
  ∃ target, .type target ∈ rule.commands ∧ target ≠ rule.name

end GrammarConversion.Antlr

namespace GrammarConversion.Conversion

open Antlr
open LexerGrammar
open Model
open NameSupply
open Reading

section Names

variable {grammar : Grammar} {space space' : Workspace} {mode image other : String} {rule : Rule}

/-! ## Names are bare -/

/-- **Whether the names that rules have, or give as a type, are bare.** -/
def BareNames (lexer : LexerGrammar) : Prop :=
  ∀ mode, ∀ rule ∈ lexer.rulesIn mode,
    IsBare rule.name ∧ ∀ target, .type target ∈ rule.commands → IsBare target

/-- **A grammar whose labels and lexical states are identifiers.** -/
structure HasIdentifiers (grammar : Grammar) : Prop where
  labels : ∀ spec ∈ grammar.specs, ∀ label, spec.label? = some label → IsName label
  states : ∀ production ∈ grammar.tokenProductions, ∀ state ∈ production.states, IsName state

lemma HasIdentifiers.isBare_givenName (h : HasIdentifiers grammar) {spec : TokenSpec}
    (hspec : spec ∈ grammar.specs) : IsBare (givenName spec) := by
  cases hlabel : spec.label? with
  | none =>
      rw [givenName, hlabel]
      decide
  | some label =>
      rw [givenName_eq hlabel]
      exact (IsBare.of_isName (h.labels spec hspec label hlabel)).ruleName

/-- What is asked for has bare names if what is there has. -/
lemma Request.isBare {lexer : LexerGrammar} (h : Request grammar lexer mode rule)
    (hidentifiers : HasIdentifiers grammar) (hbare : BareNames lexer) :
    IsBare rule.name ∧ ∀ target, .type target ∈ rule.commands → IsBare target := by
  cases h with
  | full hconverts hcommands =>
      exact ⟨hidentifiers.isBare_givenName hconverts.spec_mem_specs,
        fun target htype => absurd htype (hcommands.type_notMem target)⟩
  | @aliased production spec body kind target state hconverts _ _ _ hstate htarget =>
      have hbaretarget : IsBare target := by
        rcases htarget with rfl | ⟨mode, existing, hexisting, rfl⟩
        · exact hidentifiers.isBare_givenName hconverts.spec_mem_specs
        · exact (hbare mode existing hexisting).1
      have hbarestate : IsBare state :=
        .of_isName (hidentifiers.states production hconverts.production_mem state hstate)
      refine ⟨(hbarestate.append (by decide)).append hbaretarget, fun named htype => ?_⟩
      rw [eq_of_type_mem_aliasRule htype]
      exact hbaretarget

/-- **All names of the finished lexer are bare,** and so are the types that its rules give. -/
lemma bareNames_of_convertTokens {name : String}
    (hrun : convertTokens name grammar = (space, .ok ()))
    (hidentifiers : HasIdentifiers grammar) : BareNames space.lexer := by
  refine (reaches_convertTokens hrun).forall_rules (Workspace.sound_initialWorkspace name grammar)
    (fun hrequest hnew hbare => ?_) (by simp [Workspace.rulesIn_initialWorkspace])
  rcases hrequest.isBare hidentifiers hbare with ⟨hname, htypes⟩
  refine ⟨?_, by rwa [hnew.commands]⟩
  cases hnew.takes with
  | given _ hsame =>
      rw [hsame]
      exact hname.ruleName
  | drawn _ hgenerated _ => exact .of_isName hgenerated.isName

/-! ## Rules that give a type -/

/-- **A rule that gives a type refers to the rule of that name.** -/
lemma Workspace.Accounted.refersTo_of_type (h : space.Accounted grammar)
    (hrule : rule ∈ space.lexer.rulesIn mode) (htype : .type other ∈ rule.commands) :
    RefersTo grammar mode rule other := by
  cases h.origin mode rule hrule with
  | labelled _ _ _ _ _ _ htypes => exact absurd htype (htypes other)
  | generated _ htypes => exact absurd htype (htypes other)
  | aliased halias =>
      rcases halias with ⟨target, hrefers⟩
      rw [hrefers.types other htype]
      exact hrefers

lemma Workspace.Accounted.namesOther_of_type (h : space.Accounted grammar)
    (hrule : rule ∈ space.lexer.rules) (htype : .type other ∈ rule.commands) :
    rule.NamesOther := by
  rcases h.distinctModes.exists_mode hrule with ⟨mode, hmem⟩
  exact ⟨other, htype, (h.refersTo_of_type hmem htype).name_ne⟩

/-- **Only the look-up of a letter finds a rule that gives a type,** and that by its body: the name
of such a rule holds an underscore. -/
lemma Workspace.Accounted.letter_of_type (h : space.Accounted grammar)
    (hbare : BareNames space.lexer) {ignoreCase : Bool}
    (hfound : space.lexer.ruleForBody? (.text (literalBody ignoreCase image)) = some rule)
    (htype : .type other ∈ rule.commands) :
    ignoreCase = true ∧ IsLetterAtMost image ∧ other = capitals image ∧
      space.lexer.ruleWithBody? (.text (capitals image)) = some rule := by
  rcases ruleForBody?_cases hfound with ⟨hmem, -, hcases⟩
  rcases h.distinctModes.exists_mode hmem with ⟨mode, hrule⟩
  have hrefers := h.refersTo_of_type hrule htype
  rcases hcases with ⟨hwith, hbody⟩ | hname
  · have hother : other = literalBody ignoreCase image :=
      Body.text.inj (hrefers.body.symm.trans hbody)
    have hbareother := (hbare mode rule hrule).2 other htype
    rw [hother] at hbareother
    rcases literalBody_of_isBare hbareother with ⟨hcase, hletter, hcapitals⟩
    rw [hcapitals] at hother hwith
    exact ⟨hcase, hletter, hother, hwith⟩
  · have hbarename := (hbare mode rule hrule).1
    rw [← Body.text.inj hname] at hbarename
    rcases literalBody_of_isBare hbarename with ⟨-, hletter, hcapitals⟩
    have hunderscore := hrefers.underscore_mem
    rw [← Body.text.inj hname, hcapitals] at hunderscore
    exact absurd hunderscore (underscore_notMem_capitals hletter)

/-- **Only a letter can refer to a rule that gives another type.**  Let the labels and the lexical
states of a grammar be identifiers.  Then the rule that is found for a literal gives its tokens no
other type if and only if this holds of letters: where case may not matter, and if there is no token
rule for the letter as it stands, the first token rule whose body is the letter does not give the
type of that name. -/
theorem ruleForImage?_not_namesOther_iff {name : String}
    (hrun : convertTokens name grammar = (space, .ok ())) (hidentifiers : HasIdentifiers grammar)
    (image : String) :
    (∀ rule, space.lexer.ruleForImage? image = some rule → ¬rule.NamesOther) ↔
      (grammar.usesIgnoreCase = true → IsLetterAtMost image →
        space.lexer.ruleForBody? (.text (literalBody false image)) = none →
        ∀ rule, space.lexer.ruleWithBody? (.text (capitals image)) = some rule →
          .type (capitals image) ∉ rule.commands) := by
  have haccounted := accounted_of_convertTokens hrun
  have hbare := bareNames_of_convertTokens hrun hidentifiers
  constructor
  · intro hnone huses hletter hverbatim rule hwith htype
    have hfound := ruleForBody?_of_ruleWithBody? hwith
    refine hnone rule ?_
      (haccounted.namesOther_of_type (of_ruleForBody?_eq_some hfound).1 htype)
    rw [ruleForImage?, hverbatim, haccounted.caseInsensitive, huses,
      literalBody_of_isLetterAtMost hletter]
    exact hfound
  · rintro hletters rule hfound ⟨other, htype, -⟩
    rw [ruleForImage?] at hfound
    split at hfound
    · rename_i verbatim hverbatim
      obtain rfl : verbatim = rule := Option.some.inj hfound
      exact Bool.noConfusion (haccounted.letter_of_type hbare hverbatim htype).1
    · rename_i hverbatim
      split at hfound
      · rename_i huses
        rw [haccounted.caseInsensitive] at huses
        rcases haccounted.letter_of_type hbare hfound htype with ⟨-, hletter, rfl, hwith⟩
        exact hletters huses hletter hverbatim rule hwith htype
      · cases hfound

end Names

lemma hasIdentifiers_wordGrammar {label : String} (hlabel : IsName label) (word : String) :
    HasIdentifiers (wordGrammar label word) := by
  refine ⟨isName_of_wordGrammar hlabel word, fun production hproduction => ?_⟩
  obtain rfl := List.mem_singleton.mp hproduction
  show ∀ state ∈ ["DEFAULT", "S"], IsName state
  decide

/-- A word of two letters refers to a rule that gives no other type. -/
theorem ruleForImage?_not_namesOther_word :
    ∃ rule, (convertTokens "L" (wordGrammar "IF" "if")).1.lexer.ruleForImage? "if" = some rule ∧
      ¬rule.NamesOther := by
  have hok : (convertTokens "L" (wordGrammar "IF" "if")).2 = .ok () := rfl
  have hfound : (convertTokens "L" (wordGrammar "IF" "if")).1.lexer.ruleForImage? "if"
      = some { name := "IF", body := .text "I F" } := by decide +kernel
  have hidentifiers := hasIdentifiers_wordGrammar (by decide : IsName "IF") "if"
  have hiff := ruleForImage?_not_namesOther_iff (Prod.ext rfl hok) hidentifiers "if"
  exact ⟨_, hfound, hiff.mpr (fun _ hletter => absurd hletter (by decide)) _ hfound⟩

/-- **A letter refers to a rule that gives another type:** the parser expects tokens of the type
`S_A`, and the lexer sends tokens of the type `A`. -/
theorem ruleForImage?_namesOther_letter :
    (convertTokens "L" (wordGrammar "A" "a")).2 = .ok () ∧
      ∃ rule, (convertTokens "L" (wordGrammar "A" "a")).1.lexer.ruleForImage? "a" = some rule ∧
        rule.name = "S_A" ∧ .type "A" ∈ rule.commands ∧ rule.NamesOther := by
  have hfound : (convertTokens "L" (wordGrammar "A" "a")).1.lexer.ruleForImage? "a"
      = some { name := "S_A", body := .text "A", commands := [.type "A"] } := by decide +kernel
  exact ⟨rfl, _, hfound, rfl, by simp, "A", by simp, by decide⟩

end GrammarConversion.Conversion
