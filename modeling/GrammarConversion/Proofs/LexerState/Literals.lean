import GrammarConversion.Proofs.LiteralBody
import GrammarConversion.Proofs.LexerState.UniqueNames

/-!
# Tokens for literals

A parser looks a literal up in the finished lexer, first by the body that the literal has where case
matters and then, if case may not matter, by the other one.

**`exists_ruleForImage?_of_literal`: every literal that is a token of the grammar is found,** and
what is found is no fragment.  In the turn of the token a rule is stored that stands for the body of
the literal, unless the label is in the way (`Workspace.Accounted.hasToken_of_written`).  No later
turn takes the rule away.

A label is in the way if a fragment has its name, or if the rule would only refer to itself and is
dropped (`LabelBlocks`).  Labels that are different are no fragments' names.  And the body of a
literal is an identifier only if the literal is a letter that is matched in either case; the label
is that letter then, and since the letter rule is gone a rule of a mode has its name.
-/

namespace GrammarConversion.Conversion

open Antlr
open LexerGrammar
open Model
open NameSupply
open Reading

section Literals

variable {grammar : Grammar} {production : TokenProduction} {spec : TokenSpec} {body : Body}
  {image name mode : String} {commands : List Command} {kind : ProductionKind}
  {stored : Option Rule} {space before after space' : Workspace}

/-! ## Bodies of literals -/

/-- Whether a token matches in either case. -/
def ignoresCase (grammar : Grammar) (production : TokenProduction) (spec : TokenSpec) : Bool :=
  grammar.ignoreCase || production.ignoreCase || spec.ignoreCase

/-- The body of the rule for a token that is a literal. -/
def tokenLiteral (grammar : Grammar) (production : TokenProduction) (spec : TokenSpec)
    (image : String) : Body :=
  .text (literalBody (ignoresCase grammar production spec) image)

/-- The body of a literal is that of its own case, which the settings, the production and the token
have a say in. -/
lemma specBody_of_literal {settings : TokenSettings}
    (hliteral : spec.tree = .regex (.literal image))
    (h : specBody settings production spec = .ok body) :
    image ≠ "" ∧ body = .text (literalBody
      (settings.ignoreCase || production.ignoreCase || spec.ignoreCase) image) := by
  rw [specBody, hliteral, tokenBody, lexerBody] at h
  split at h
  · cases h
  · exact ⟨‹_›, (Except.ok.inj h).symm⟩

lemma specBody_literal (hliteral : spec.tree = .regex (.literal image))
    (h : specBody (tokenSettings grammar) production spec = .ok body) :
    image ≠ "" ∧ body = tokenLiteral grammar production spec image :=
  specBody_of_literal hliteral h

lemma usesIgnoreCase_of_ignoresCase (hproduction : production ∈ grammar.tokenProductions)
    (hspec : spec ∈ production.specs) (h : ignoresCase grammar production spec = true) :
    grammar.usesIgnoreCase = true := by
  rw [ignoresCase, Bool.or_eq_true, Bool.or_eq_true] at h
  rw [Grammar.usesIgnoreCase, Bool.or_eq_true, List.any_eq_true]
  rcases h with (h | h) | h
  · exact .inl h
  · exact .inr ⟨production, hproduction, by simp [h]⟩
  · refine .inr ⟨production, hproduction, ?_⟩
    rw [Bool.or_eq_true, List.any_eq_true]
    exact .inr ⟨spec, hspec, h⟩

/-! ## Labels in the way -/

/-- **Whether the label of a token is in the way of a token rule** for a body in a mode. -/
inductive LabelBlocks (lexer : LexerGrammar) (mode : String) (spec : TokenSpec) (body : Body) :
    Prop
  /-- A fragment of that name is taken for the rule. -/
  | fragment {label : String} {rule : Rule} (hlabel : spec.label? = some label)
      (hrule : rule ∈ lexer.rulesIn mode) (hname : rule.name = ruleName label)
      (hfragment : rule.isFragment = true) (hcovers : rule.Covers body)
  /-- The rule would only refer to itself, and there is no letter rule to take the place of. -/
  | itself {label : String} (hlabel : spec.label? = some label)
      (hbody : body = .text (ruleName label))
      (hletter : lexer.letterRule? (ruleName label) = none)

/-- **A rule under the label of a token that is not private is no fragment** if labels are
different. -/
lemma Workspace.Accounted.isFragment_of_label (h : space.Accounted grammar)
    (hlabels : (reservedNames grammar).Nodup)
    (hproduction : production ∈ grammar.tokenProductions) (hspec : spec ∈ production.specs)
    (hpublic : (production.isExplicit && spec.isPrivate) = false) {label : String}
    (hlabel : spec.label? = some label) {rule : Rule} (hrule : rule ∈ space.lexer.rulesIn mode)
    (hname : rule.name = ruleName label) : rule.isFragment = false := by
  cases h.origin mode rule hrule with
  | labelled hproduction' hspec' hlabel' _ hname' hfragment _ =>
      have hsource := source_eq_of_ruleName_eq hlabels (mem_sources hproduction hspec)
        (mem_sources hproduction' hspec') hlabel hlabel' (hname.symm.trans hname')
      rcases Prod.mk.inj hsource with ⟨rfl, rfl⟩
      exact hfragment.trans hpublic
  | generated hgenerated _ =>
      rw [hname] at hgenerated
      exact absurd (mem_reservedNames (List.mem_flatMap.mpr ⟨production, hproduction, hspec⟩)
        hlabel) hgenerated.1
  | aliased halias =>
      rcases halias with ⟨target, hrefers⟩
      exact hrefers.isToken

/-- **A label is only in the way of a rule that is there,** if labels are identifiers and different.
The label that is the body of a literal is a letter then. -/
lemma LabelBlocks.exists_hasToken (hblocks : LabelBlocks space.lexer mode spec body)
    (h : space.Accounted grammar) (hconverts : Converts grammar production spec body)
    (hliteral : spec.tree = .regex (.literal image))
    (hpublic : (production.isExplicit && spec.isPrivate) = false)
    (hname : ∀ label, spec.label? = some label → IsName label)
    (hlabels : (reservedNames grammar).Nodup) : ∃ mode, space.lexer.HasToken mode body := by
  have hfree {label other : String} {rule : Rule} (hlabel : spec.label? = some label)
      (hrule : rule ∈ space.lexer.rulesIn other) (hsame : rule.name = ruleName label) :
      rule.isFragment = false :=
    h.isFragment_of_label hlabels hconverts.production_mem hconverts.spec_mem hpublic hlabel hrule
      hsame
  cases hblocks with
  | fragment hlabel hrule hsame hfragment _ =>
      rw [hfree hlabel hrule hsame] at hfragment
      exact Bool.noConfusion hfragment
  | @itself label hlabel hbody hletter =>
      rcases specBody_literal hliteral hconverts.converted with ⟨hne, hconverted⟩
      have hself : ruleName label = literalBody (ignoresCase grammar production spec) image :=
        Body.text.inj (hbody.symm.trans hconverted)
      have hbare := (IsBare.of_isName (hname label hlabel)).ruleName
      rw [hself] at hbare
      rcases literalBody_of_isBare hbare with ⟨hcase, hatMost, hcapitals⟩
      have huses :=
        usesIgnoreCase_of_ignoresCase hconverts.production_mem hconverts.spec_mem hcase
      rcases exists_letterRule hne hatMost with ⟨letter, hmem, hlettername⟩
      rw [← hcapitals, ← hself] at hlettername
      rcases h.letters huses letter hmem with hkept | ⟨other, rule, hrule, hrulename⟩
      · exact absurd hlettername (letterRule?_eq_none_iff.mp hletter letter hkept)
      · rw [hlettername] at hrulename
        exact ⟨other, rule, hrule, hfree hlabel hrule hrulename, .inr (by rw [hbody, hrulename])⟩

/-! ## Tokens that are written in full -/

/-- The body of a literal is no name that a supply gives: those are longer than a letter. -/
lemma not_isGenerated_literalBody {reserved : List String} {ignoreCase : Bool} :
    ¬IsGenerated reserved (literalBody ignoreCase image) := by
  intro hgenerated
  rcases literalBody_of_isBare (.of_isName hgenerated.isName) with ⟨-, hletter, hcapitals⟩
  have hlength := hgenerated.one_lt_length
  rw [hcapitals, capitals, String.toList_ofList, List.length_map] at hlength
  exact absurd hletter.1 (Nat.not_le.mpr hlength)

/-- **A literal has a token rule once its token is written,** in the mode where it is written,
unless its label is in the way. -/
lemma Workspace.Accounted.hasToken_of_written (h : before.Accounted grammar)
    (hconverts : Converts grammar production spec body)
    (hliteral : spec.tree = .regex (.literal image))
    (hpublic : (production.isExplicit && spec.isPrivate) = false)
    (hadded : before.addRule (homeMode production) (fullRule production spec body commands) kind
      = (after, .ok stored)) :
    after.lexer.HasToken (homeMode production) body ∨
      LabelBlocks before.lexer (homeMode production) spec body := by
  have hgain := h.sound.gain hadded
  cases stored with
  | none =>
      cases hgain with
      | @dropped name htakes hself hletter _ _ =>
          have hbody : body = .text name := hself
          rcases htakes.of_fullRule with ⟨hlabelled, hgenerated⟩
          cases hlabel : spec.label? with
          | some label =>
              rw [hlabelled label hlabel] at hbody hletter
              exact .inr (.itself hlabel hbody hletter)
          | none =>
              have hliteral' := (specBody_literal hliteral hconverts.converted).2
              have hgiven := hgenerated hlabel
              rw [Body.text.inj (hbody.symm.trans hliteral')] at hgiven
              exact absurd hgiven not_isGenerated_literalBody
  | some stored =>
      have hstored := hgain.mem_stored
      cases hgain with
      | added hnew => exact .inl ⟨stored, hstored.1, hnew.fragment.trans hpublic, hstored.2⟩
      | kept hmem hcovers hnamed htoken _ _ =>
          cases hfragment : stored.isFragment with
          | false => exact .inl ⟨stored, hstored.1, hfragment, hstored.2⟩
          | true =>
              have hname : givenName spec ≠ "" := fun hempty => by
                rw [htoken hempty] at hfragment
                exact Bool.noConfusion hfragment
              rcases exists_label_of_givenName_ne hname with ⟨label, hlabel, hgiven⟩
              have hsame : stored.name = ruleName (givenName spec) := hnamed hname
              rw [hgiven, ruleName_ruleName] at hsame
              exact .inr (.fragment hlabel hmem hsame hfragment hcovers)

lemma Reaches.hasToken (hreaches : Reaches grammar space space')
    (hsound : space.Sound grammar) (h : space.lexer.HasToken mode body) :
    space'.lexer.HasToken mode body := by
  rcases h with ⟨rule, hrule, htoken, hcovers⟩
  exact ⟨rule, (hreaches.rulesIn_grow hsound mode).subset hrule, htoken, hcovers⟩

/-- **A literal has a token rule after its turn,** if labels are identifiers and different. -/
lemma Turned.hasToken (hturned : Turned grammar production spec space space')
    (h : space.Accounted grammar) (hliteral : spec.tree = .regex (.literal image))
    (hpublic : (production.isExplicit && spec.isPrivate) = false)
    (hname : ∀ label, spec.label? = some label → IsName label)
    (hlabels : (reservedNames grammar).Nodup) :
    ∃ mode, space'.lexer.HasToken mode (tokenLiteral grammar production spec image) := by
  cases hturned with
  | @written body commands kind before after stored hconverts hcommands hbefore hadded hafter =>
      have haccounted := hbefore.accounted h
      have hmove : Move grammar before after := .requested (.full hconverts hcommands) hadded
      rw [← (specBody_literal hliteral hconverts.converted).2]
      rcases haccounted.hasToken_of_written hconverts hliteral hpublic hadded with
        htoken | hblocks
      · exact ⟨_, Reaches.hasToken hafter (hmove.sound haccounted.sound) htoken⟩
      · rcases hblocks.exists_hasToken haccounted hconverts hliteral hpublic hname hlabels with
          ⟨mode, htoken⟩
        exact ⟨mode, Reaches.hasToken (.head hmove hafter) haccounted.sound htoken⟩
  | @found body before existing hconverts himplicit hbefore hfound hafter =>
      have haccounted := hbefore.accounted h
      rw [← (specBody_literal hliteral hconverts.converted).2]
      rcases of_ruleForBody?_eq_some hfound with ⟨hmem, htoken, hcovers⟩
      rcases haccounted.distinctModes.exists_mode hmem with ⟨mode, hrule⟩
      have hexisting : before.lexer.HasToken mode body := ⟨existing, hrule, htoken, hcovers⟩
      exact ⟨mode, Reaches.hasToken hafter haccounted.sound hexisting⟩

/-- **Every literal that is a token of a grammar is found in the finished lexer,** and not as a
fragment.  What is found is a rule of the lexer for the literal as it stands, or where case may not
matter, for the literal in either case.  The labels of the grammar are identifiers and different as
names of rules, and the token is not a private one of an explicit production. -/
theorem exists_ruleForImage?_of_literal
    (hrun : convertTokens name grammar = (space, .ok ()))
    (hnames : ∀ spec ∈ grammar.specs, ∀ label, spec.label? = some label → IsName label)
    (hlabels : (reservedNames grammar).Nodup)
    (hproduction : production ∈ grammar.tokenProductions) (hspec : spec ∈ production.specs)
    (hpublic : production.isExplicit = true → spec.isPrivate = false)
    (hliteral : spec.tree = .regex (.literal image)) :
    ∃ rule, space.lexer.ruleForImage? image = some rule ∧ rule.isFragment = false ∧
      rule ∈ space.lexer.rules ∧
        (rule.Covers (.text (literalBody false image)) ∨
          grammar.usesIgnoreCase = true ∧ rule.Covers (.text (literalBody true image))) := by
  have haccounted := accounted_of_convertTokens hrun
  have hpublic' : (production.isExplicit && spec.isPrivate) = false := by
    rw [Bool.and_eq_false_imp]
    exact hpublic
  have hmem : spec ∈ grammar.specs := List.mem_flatMap.mpr ⟨production, hproduction, hspec⟩
  rcases (turned_of_convertTokens hrun hproduction hspec).hasToken
      (accounted_initialWorkspace name grammar) hliteral hpublic' (hnames spec hmem) hlabels
    with ⟨mode, rule, hrule, htoken, hcovers⟩
  rcases exists_ruleForBody? (mem_rules_of_mem_rulesIn hrule) htoken hcovers with ⟨found, hfound⟩
  rw [ruleForImage?]
  split
  · rename_i verbatim hverbatim
    rcases of_ruleForBody?_eq_some hverbatim with ⟨hstored, hplain, hsame⟩
    exact ⟨verbatim, rfl, hplain, hstored, .inl hsame⟩
  · rename_i hnone
    cases hcase : ignoresCase grammar production spec with
    | false =>
        rw [hcase, hnone] at hfound
        cases hfound
    | true =>
        have huses := usesIgnoreCase_of_ignoresCase hproduction hspec hcase
        rw [hcase] at hfound
        rw [haccounted.caseInsensitive, huses, if_pos rfl]
        rcases of_ruleForBody?_eq_some hfound with ⟨hstored, hplain, hsame⟩
        exact ⟨found, hfound, hplain, hstored, .inr ⟨rfl, hsame⟩⟩

end Literals

/-- A word that is matched in either case, in two lexical states. -/
def wordGrammar (label word : String) : Grammar :=
  { tokenProductions :=
      [{ kind := .known .token
         listedStates := ["DEFAULT", "S"]
         specs := [{ tree := .regex (.literal word), label := some label }] }]
    bnfProductions := []
    ignoreCase := true }

lemma isName_of_wordGrammar {label : String} (hlabel : IsName label) (word : String) :
    ∀ spec ∈ (wordGrammar label word).specs, ∀ other, spec.label? = some other →
      IsName other := by
  intro spec hspec other hother
  obtain rfl : spec = { tree := .regex (.literal word), label := some label } := by
    simpa [wordGrammar, Grammar.specs] using hspec
  have hsame : label = other ∧ other ≠ "" := by simpa [TokenSpec.label?] using hother
  rwa [← hsame.1]

/-- A letter is found, although its rule has another body than the one that is looked for. -/
theorem exists_ruleForImage?_letter :
    ∃ rule, (convertTokens "L" (wordGrammar "A" "a")).1.lexer.ruleForImage? "a" = some rule ∧
      rule.isFragment = false ∧ rule ∈ (convertTokens "L" (wordGrammar "A" "a")).1.lexer.rules ∧
        (rule.Covers (.text "'a'") ∨
          (wordGrammar "A" "a").usesIgnoreCase = true ∧ rule.Covers (.text "A")) := by
  have hok : (convertTokens "L" (wordGrammar "A" "a")).2 = .ok () := rfl
  exact exists_ruleForImage?_of_literal (Prod.ext rfl hok)
    (isName_of_wordGrammar (by decide) "a") (by decide) List.mem_cons_self List.mem_cons_self
    (fun _ => rfl) rfl

end GrammarConversion.Conversion
