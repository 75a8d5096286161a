import GrammarConversion.Proofs.LexerState.Promotion
import GrammarConversion.Proofs.ParserRule.Elements

/-!
# Names of tokens in a parser

A parser mentions the rule that a literal is looked up to, and that one exists.  It also mentions
tokens by their labels, and does so without a look into the lexer.

A token that is written in full has a rule under its label, since labels are different and none of
them is the body of its token.  A literal of a BNF production is not written if there is a token
rule for it when its turn comes; the rule that is there has a label of its own, or none, and the
parser may be left with a label that no rule has (`tokensResolve_exception`).

**`tokensResolve`: such labels are the only ones.**
-/

namespace GrammarConversion.Model

/-- Whether an element that is produced from a symbol stands for a token of the grammar. -/
def Symbol.IsToken : Symbol → Prop
  | .call _ => False
  | .literal _ => True
  | .reference _ => True
  | .endOfFile => False

/-- **Whether a label is that of a token** which is not private. -/
def Grammar.HasToken (grammar : Grammar) (label : String) : Prop :=
  ∃ production ∈ grammar.tokenProductions, ∃ spec ∈ production.specs,
    spec.isPrivate = false ∧ spec.label? = some label

end GrammarConversion.Model

namespace GrammarConversion.Conversion

open Antlr
open LexerGrammar
open Model
open Reading

/-- **A grammar whose tokens can be named.**  Its labels are different as names of rules, none of
them is the body of its token, and references name tokens that are not private. -/
structure NamesTokens (grammar : Grammar) : Prop where
  labels : (reservedNames grammar).Nodup
  bodies : ∀ production ∈ grammar.tokenProductions, ∀ spec ∈ production.specs, ∀ label,
    spec.label? = some label →
      specBody (tokenSettings grammar) production spec ≠ .ok (.text (ruleName label))
  references : ∀ production ∈ grammar.bnfProductions, ∀ label,
    .reference label ∈ production.symbols grammar → grammar.HasToken label

/-- **Whether the token under a label is passed over.**  It is a literal of a BNF production, and
when its turn comes the lexer has a token rule for it. -/
structure PassedOver (name : String) (grammar : Grammar) (lexer : LexerGrammar) (label : String) :
    Prop where
  turn : ∃ earlier production later specs spec specs',
    grammar.tokenProductions = earlier ++ production :: later ∧ production.isExplicit = false ∧
      production.specs = specs ++ spec :: specs' ∧ spec.label? = some label ∧
      ∃ body, specBody (tokenSettings grammar) production spec = .ok body ∧
        ∃ found ∈ lexer.rules,
          (promotionStart name grammar earlier production specs).lexer.ruleForBody? body
            = some found

/-- **Whether the elements for literals and for named tokens are names of token rules,** the labels
that are excepted apart. -/
def TokensResolve (grammar : Grammar) (pair : GrammarPair) (excepted : String → Prop) : Prop :=
  ∀ production ∈ grammar.bnfProductions,
    List.Forall₂ (fun symbol element => symbol.IsToken →
        (∃ rule ∈ pair.lexer.rules, rule.isFragment = false ∧ rule.name = element) ∨
          ∃ label, symbol = .reference label ∧ excepted label)
      (production.symbols grammar) (ruleElements grammar pair.lexer production)

section Tokens

variable {grammar : Grammar} {production : TokenProduction} {spec : TokenSpec} {body : Body}
  {commands : List Command} {kind : ProductionKind} {stored : Option Rule} {name label : String}
  {before after space : Workspace} {pair : GrammarPair}

/-- **A token that is written in full has a rule under its label,** unless the label is its body. -/
lemma exists_rule_of_written (hsound : before.Sound grammar) (hlabel : spec.label? = some label)
    (hself : body ≠ .text (ruleName label))
    (hadded : before.addRule (homeMode production) (fullRule production spec body commands) kind
      = (after, .ok stored)) :
    ∃ rule ∈ after.lexer.rulesIn (homeMode production), rule.name = ruleName label := by
  have hgain := hsound.gain hadded
  cases stored with
  | none =>
      cases hgain with
      | dropped htakes hbody => exact absurd (htakes.of_fullRule.1 label hlabel ▸ hbody) hself
  | some stored =>
      refine ⟨stored, hgain.mem_stored.1, ?_⟩
      cases hgain with
      | added hnew => exact hnew.takes.of_fullRule.1 label hlabel
      | kept _ _ hnamed =>
          have hname : stored.name = ruleName (givenName spec) := hnamed (givenName_ne_empty hlabel)
          rwa [givenName_eq hlabel, ruleName_ruleName] at hname

/-- A token of an explicit production is always written in full. -/
lemma exists_rule_of_explicit (hrun : convertTokens name grammar = (space, .ok ()))
    (hproduction : production ∈ grammar.tokenProductions) (hspec : spec ∈ production.specs)
    (hexplicit : production.isExplicit = true) (hlabel : spec.label? = some label)
    (hself : specBody (tokenSettings grammar) production spec ≠ .ok (.text (ruleName label))) :
    ∃ mode, ∃ rule ∈ space.lexer.rulesIn mode, rule.name = ruleName label := by
  cases turned_of_convertTokens hrun hproduction hspec with
  | @written body commands kind before after stored hconverts hcommands hbefore hadded hafter =>
      have hsound := hbefore.sound (Workspace.sound_initialWorkspace name grammar)
      have hbody : body ≠ .text (ruleName label) :=
        fun hsame => hself (hsame ▸ hconverts.converted)
      rcases exists_rule_of_written hsound hlabel hbody hadded with ⟨rule, hrule, hname⟩
      have hmoved := Move.sound hsound (.requested (.full hconverts hcommands) hadded)
      exact ⟨_, rule, (hafter.rulesIn_grow hmoved _).subset hrule, hname⟩
  | found _ himplicit =>
      rw [hexplicit] at himplicit
      exact Bool.noConfusion himplicit

/-- A literal of a BNF production is written in full unless it is passed over. -/
lemma exists_rule_of_implicit (hrun : convertTokens name grammar = (space, .ok ()))
    (hproduction : production ∈ grammar.tokenProductions) (hspec : spec ∈ production.specs)
    (himplicit : production.isExplicit = false) (hlabel : spec.label? = some label)
    (hself : specBody (tokenSettings grammar) production spec ≠ .ok (.text (ruleName label))) :
    (∃ mode, ∃ rule ∈ space.lexer.rulesIn mode, rule.name = ruleName label) ∨
      PassedOver name grammar space.lexer label := by
  rcases List.append_of_mem hproduction with ⟨earlier, later, hproductions⟩
  rcases List.append_of_mem hspec with ⟨specs, specs', hspecs⟩
  rcases reaches_promotionStart hrun hproductions himplicit hspecs with
    ⟨hstart, promoted, hturn, hrest⟩
  have haccounted := hstart.accounted (accounted_initialWorkspace name grammar)
  have hmem : ∀ other ∈ spec :: specs', other ∈ production.specs := by
    intro other hother
    rw [hspecs]
    exact List.mem_append_right specs hother
  rcases promoteSpecs_cons_ok hturn with ⟨body, hbody, ⟨found, hfound, -⟩ | hwritten⟩
  · right
    have hlast : Reaches grammar _ space :=
      (turned_of_promoteSpecs hproduction himplicit _ _ hmem hturn).1.trans hrest
    rcases haccounted.distinctModes.exists_mode (of_ruleForBody?_eq_some hfound).1 with
      ⟨mode, hmode⟩
    have hkept : found ∈ space.lexer.rules :=
      mem_rules_of_mem_rulesIn ((hlast.rulesIn_grow haccounted.sound mode).subset hmode)
    exact ⟨earlier, production, later, specs, spec, specs', hproductions, himplicit, hspecs,
      hlabel, body, hbody, found, hkept, hfound⟩
  · left
    rcases hwritten with ⟨-, records, mid, stored, hadded, hlater⟩
    rw [← fullRule_of_implicit himplicit, ← homeMode_of_implicit himplicit] at hadded
    have hne : body ≠ .text (ruleName label) := fun hsame => hself (hsame ▸ hbody)
    have hnoted := haccounted.sound.noting records
    rcases exists_rule_of_written hnoted hlabel hne hadded with ⟨rule, hrule, hname⟩
    have hmid := Move.sound hnoted
      (.requested (.full ⟨hproduction, hspec, hbody⟩ (.inl rfl)) hadded)
    have hlast : Reaches grammar mid space := (turned_of_promoteSpecs hproduction himplicit _ _
      (fun other hother => hmem other (List.mem_cons_of_mem spec hother)) hlater).1.trans hrest
    exact ⟨_, rule, (hlast.rulesIn_grow hmid _).subset hrule, hname⟩

/-- **A token has a rule under its label,** unless the label is its body or it is passed over. -/
lemma exists_rule_of_label (hrun : convertTokens name grammar = (space, .ok ()))
    (hproduction : production ∈ grammar.tokenProductions) (hspec : spec ∈ production.specs)
    (hlabel : spec.label? = some label)
    (hself : specBody (tokenSettings grammar) production spec ≠ .ok (.text (ruleName label))) :
    (∃ mode, ∃ rule ∈ space.lexer.rulesIn mode, rule.name = ruleName label) ∨
      PassedOver name grammar space.lexer label := by
  cases hexplicit : production.isExplicit with
  | true => exact .inl (exists_rule_of_explicit hrun hproduction hspec hexplicit hlabel hself)
  | false => exact exists_rule_of_implicit hrun hproduction hspec hexplicit hlabel hself

/-- **Every token that a parser mentions exists,** but for labels of tokens that are passed over. -/
theorem tokensResolve (h : (convert name grammar).result = .ok pair)
    (hnames : NamesTokens grammar) :
    TokensResolve grammar pair (PassedOver (name ++ "Lexer") grammar pair.lexer) := by
  rcases of_convert_eq_ok h with ⟨space, htokens, hlexer, hparser⟩
  have haccounted := accounted_of_convertTokens htokens
  intro production hproduction
  rcases exists_isRuleFor (forall₂_of_parserRules hparser) production hproduction with
    ⟨rule, hrule⟩
  refine hrule.forall₂_symbols fun symbol hsymbol element helement htoken => ?_
  cases symbol with
  | call called => exact absurd htoken id
  | endOfFile => exact absurd htoken id
  | literal image =>
      rcases Option.map_eq_some_iff.mp helement with ⟨found, hfound, hname⟩
      rcases of_ruleForImage?_eq_some hfound with ⟨hmem, hfragment⟩
      exact .inl ⟨found, hmem, hfragment, hname⟩
  | reference label =>
      rcases hnames.references production hproduction label hsymbol with
        ⟨source, hsource, spec, hspec, hpublic, hlabel⟩
      rw [hlexer, ← Option.some.inj helement]
      rcases exists_rule_of_label htokens hsource hspec hlabel
          (hnames.bodies source hsource spec hspec label hlabel)
        with ⟨mode, existing, hexisting, hname⟩ | hpassed
      · have hfragment := haccounted.isFragment_of_label hnames.labels hsource hspec
          (by simp [hpublic]) hlabel hexisting hname
        exact .inl ⟨existing, mem_rules_of_mem_rulesIn hexisting, hfragment, hname⟩
      · exact .inr ⟨label, rfl, hpassed⟩

end Tokens

/-- A token for a plus sign, a literal with a label of its own, and a parser that mentions both. -/
def signGrammar (image : String) : Grammar :=
  { tokenProductions :=
      [{ kind := .known .token
         listedStates := ["DEFAULT"]
         specs := [{ tree := .regex (.literal "+"), label := some "ADD" }] },
       { kind := .known .token
         listedStates := ["DEFAULT"]
         specs := [{ tree := .regex (.literal image), label := some "SIGN" }]
         isExplicit := false }]
    bnfProductions :=
      [{ name := "start", tree := .expansion (.sequence [.literal "+", .reference "SIGN"]) }] }

lemma namesTokens_signGrammar {image : String} (himage : image ∈ ["+", "-"]) :
    NamesTokens (signGrammar image) := by
  have hbody : ∀ label ∈ ["ADD", "SIGN"], ∀ image ∈ ["+", "-"],
      Body.text (ruleName label) ≠ .text (literalBody false image) := by decide
  refine ⟨(by decide : ["ADD", "SIGN"].Nodup), ?_, ?_⟩
  · intro production hproduction spec hspec label hlabel hself
    rcases List.mem_pair.mp hproduction with rfl | rfl
    · obtain rfl := List.mem_singleton.mp hspec
      obtain rfl : "ADD" = label := Option.some.inj hlabel
      exact hbody "ADD" (by simp) "+" (by simp) (specBody_literal rfl hself).2
    · obtain rfl := List.mem_singleton.mp hspec
      obtain rfl : "SIGN" = label := Option.some.inj hlabel
      exact hbody "SIGN" (by simp) image himage (specBody_literal rfl hself).2
  · intro production hproduction label hlabel
    obtain rfl := List.mem_singleton.mp hproduction
    obtain rfl : label = "SIGN" := by
      simpa [BnfProduction.symbols, Tree.symbols, Expansion.symbols, Expansion.symbolsOf]
        using hlabel
    exact ⟨_, List.mem_cons_of_mem _ List.mem_cons_self, _, List.mem_cons_self, rfl, rfl⟩

/-- A literal that no token matches gets a rule under its label. -/
theorem tokensResolve_signGrammar :
    ∃ pair, (convert "G" (signGrammar "-")).result = .ok pair ∧
      pair.lexer.rules.map Rule.name = ["ADD", "SIGN"] ∧
      TokensResolve (signGrammar "-") pair (PassedOver "GLexer" (signGrammar "-") pair.lexer) := by
  have hok : (convert "G" (signGrammar "-")).result = .ok
      ⟨{ name := "GLexer"
         modes :=
          [{ name := defaultMode
             rules :=
              [{ name := "ADD", body := .text "'+'" }, { name := "SIGN", body := .text "'-'" }]
             index := [(.text "'+'", 0), (.text "'-'", 1)] }] },
        { name := "GParser", rules := [{ name := "start", body := .text "ADD SIGN" }] }⟩ := by cbv
  exact ⟨_, hok, rfl, tokensResolve hok (namesTokens_signGrammar (by decide))⟩

/-- The lexer for the sign grammar whose literal is the plus sign again. -/
def plusLexer : LexerGrammar :=
  { name := "GLexer"
    modes :=
      [{ name := defaultMode
         rules := [{ name := "ADD", body := .text "'+'" }]
         index := [(.text "'+'", 0)] }] }

/-- **A parser may mention a token that no rule has:** the label of a literal that another token
matches. -/
theorem tokensResolve_exception :
    NamesTokens (signGrammar "+") ∧
      (∀ spec ∈ (signGrammar "+").specs, ∀ label, spec.label? = some label → IsName label) ∧
      ∃ pair, (convert "G" (signGrammar "+")).result = .ok pair ∧
        ¬TokensResolve (signGrammar "+") pair fun _ => False := by
  have hok : (convert "G" (signGrammar "+")).result = .ok
      ⟨plusLexer,
        { name := "GParser", rules := [{ name := "start", body := .text "ADD SIGN" }] }⟩ := by cbv
  refine ⟨namesTokens_signGrammar (by decide), ?_, _, hok, fun hresolve => ?_⟩
  · intro spec hspec label hlabel
    have hlabels : ∀ label ∈ (signGrammar "+").specs.filterMap TokenSpec.label?, IsName label := by
      decide
    exact hlabels label (List.mem_filterMap.mpr ⟨spec, hspec, hlabel⟩)
  · have htokens := hresolve
      { name := "start", tree := .expansion (.sequence [.literal "+", .reference "SIGN"]) }
      List.mem_cons_self
    have helements : ruleElements (signGrammar "+") plusLexer
        { name := "start", tree := .expansion (.sequence [.literal "+", .reference "SIGN"]) }
        = ["ADD", "SIGN"] := by cbv
    rw [helements] at htokens
    -- the second element is the one for the reference
    have hreference := (List.forall₂_cons.mp (List.forall₂_cons.mp htokens).2).1 trivial
    simp [plusLexer, LexerGrammar.rules] at hreference

end GrammarConversion.Conversion
