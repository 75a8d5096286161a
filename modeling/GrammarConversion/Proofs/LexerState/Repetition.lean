import GrammarConversion.Proofs.LexerGrammar.Answers
import GrammarConversion.Proofs.LexerState.FreshNames
import GrammarConversion.Proofs.LexerState.Step
import GrammarConversion.Proofs.LexerState.StateOrder

/-!
# Productions that come again

A production may be mapped once more.  Its rules are there already, so each request finds its
answer: a rule with a name under that name, and a rule without a name by its body
(`exists_answers`).  The answers stay what they are while the rest of the production is mapped,
since a lexer only ever grows on the way (`kept_grown`).

The second run goes other ways than the first one.  Where the name of a letter has taken the place
of the letter rule, it only refers to itself from then on, and no rule is given back.  But the name
for the rules of the other states is the same, so these are found, too.

**`mapProduction_again`: a production that goes through goes through again, and changes nothing.**
For a token without a label this needs a body by which its rule can be found: the rule is no
fragment, and the body is not a name that the rule itself might be given.
-/

namespace GrammarConversion.Conversion

open Antlr
open LexerGrammar
open Model
open NameSupply
open Reading

/-- **Whether a token is recognised when it comes again:** its body is no part of a parser rule, and
it has a label, or else is not private and has another body than a name that may be generated. -/
def Recognisable (settings : TokenSettings) (production : TokenProduction) (spec : TokenSpec) :
    Prop :=
  ∀ body, specBody settings production spec = .ok body → body.isParserPart = false ∧
    (spec.label? = none →
      spec.isPrivate = false ∧ ∀ kind number, body ≠ .text (numbered kind number))

section Repetition

variable {settings : TokenSettings} {production : TokenProduction} {kind : ProductionKind}
  {spec : TokenSpec} {body : Body} {canonical target state mode : String} {states : List String}
  {rule : Rule} {answer stored : Option Rule} {lexer lexer' : LexerGrammar}
  {space mid after : Workspace}

/-- **A regular expression is recognised** if it has a label, or is not private and its body is not
the name of a rule. -/
lemma Recognisable.of_regex {node : Regex} (htree : spec.tree = .regex node)
    (h : spec.label? ≠ none ∨ spec.isPrivate = false ∧
      ∀ name, IsName name → specBody settings production spec ≠ .ok (.text name)) :
    Recognisable settings production spec := by
  intro body hbody
  refine ⟨?_, fun hlabel => ?_⟩
  · rw [specBody, htree, tokenBody] at hbody
    cases hconverted : lexerBody
      { ignoreCase := some (settings.ignoreCase || production.ignoreCase || spec.ignoreCase)
        rule := spec.label } node with
    | error failure =>
        rw [hconverted] at hbody
        cases hbody
    | ok content =>
        rw [hconverted] at hbody
        cases hbody
        rfl
  · rcases h.resolve_left (not_not.mpr hlabel) with ⟨hpublic, hnames⟩
    refine ⟨hpublic, fun kind number hname => ?_⟩
    exact hnames _ (isName_numbered kind number) (hname ▸ hbody)

/-! ## One rule -/

/-- **Whatever is done to a workspace, its lexer grows.** -/
lemma kept_grown (lexer : LexerGrammar) : Kept fun space => Grown lexer space.lexer where
  noting _ _ h := h
  addMode space mode h := h.trans (grown_addMode space.lexer mode)
  addRule space mode rule _ h := h.trans (grown_addRule space.lexer mode rule space.names _)

lemma grown_of_mapStates {result : Except Failure Unit}
    (hrun : mapStates settings kind spec body canonical states target space = (after, result)) :
    Grown space.lexer after.lexer := by
  have hkept : Grown space.lexer
      (mapStates settings kind spec body canonical states target space).1.lexer :=
    (kept_grown space.lexer).mapStates states target space (Grown.refl space.lexer)
  rwa [hrun] at hkept

lemma grown_of_mapSpecs {specs : List TokenSpec} {result : Except Failure Unit}
    (hrun : mapSpecs settings production kind canonical states specs space = (after, result)) :
    Grown space.lexer after.lexer := by
  have hkept : Grown space.lexer
      (mapSpecs settings production kind canonical states specs space).1.lexer :=
    (kept_grown space.lexer).mapSpecs states specs space (Grown.refl space.lexer)
  rwa [hrun] at hkept

/-- **A rule that has been given a name** is found by its body from then on. -/
lemma answers_of_drawn {names : NameSupply} {drawn : String × NameSupply} (horder : lexer.InOrder)
    (hdraws : Draws names (fun name => ((lexer.addMode mode).ruleNamed? name).isSome) drawn)
    (hname : rule.name = "") (hpublic : rule.isFragment = false)
    (hpart : rule.body.isParserPart = false)
    (hbody : ∀ kind number, rule.body ≠ .text (numbered kind number))
    (hnone : (lexer.rulesIn mode).find? (Mode.isRuleFor rule.body) = none)
    (hsettle : Settling (lexer.addMode mode) mode { rule with name := ruleName drawn.1 } lexer'
      (.ok stored)) : Answers lexer' mode rule stored := by
  rw [hdraws.generated.ruleName_eq] at hsettle
  have hletter : (lexer.addMode mode).letterRule? drawn.1 = none := by
    refine letterRule?_eq_none_iff.mpr fun letter hletter => ?_
    rw [letterRules_addMode] at hletter
    exact (ne_letter_of_isGenerated hdraws.generated letter (horder.letters.subset hletter)).symm
  have hmode : mode ∈ (lexer.addMode mode).modes.map Mode.name := mem_modes_addMode.mpr (.inr rfl)
  have hrule : Mode.isRuleFor rule.body { rule with name := drawn.1 } = true :=
    Mode.isRuleFor_iff.mpr ⟨hpublic, rfl, hpart⟩
  cases hsettle.placing hletter with
  | dropped hself =>
      rcases hdraws.generated.2 with ⟨kind, number, hnumbered⟩
      exact absurd (hnumbered ▸ hself) (hbody kind number)
  | present _ hmem hexisting =>
      exact absurd hexisting (ne_of_ruleNamed?_isSome hdraws.free hmem)
  | appended =>
      refine .indexed hname ?_
      rw [rulesIn_append, if_pos ⟨rfl, hmode⟩, rulesIn_addMode, List.find?_append, hnone,
        Option.none_or, List.find?_singleton, if_pos hrule]

/-- A rule without a name is found by its body, once it has been added. -/
lemma answers_of_unnamed (horder : space.lexer.InOrder) (hname : rule.name = "")
    (hpublic : rule.isFragment = false) (hpart : rule.body.isParserPart = false)
    (hbody : ∀ kind number, rule.body ≠ .text (numbered kind number))
    (hadded : space.addRule mode rule kind = (mid, .ok stored)) :
    Answers mid.lexer mode rule stored := by
  cases hfirst : (space.lexer.rulesIn mode).find? (Mode.isRuleFor rule.body) with
  | some first =>
      have hanswers : Answers space.lexer mode rule (some first) := .indexed hname hfirst
      rcases horder.addRule_of_answers hanswers space.names
        (some fun names => names.next kind) with ⟨hlexer, -, hresult⟩
      rcases Prod.mk.inj hadded with ⟨rfl, hstored⟩
      rw [hresult] at hstored
      rw [← Except.ok.inj hstored]
      exact hlexer.symm ▸ hanswers
  | none =>
      rcases (Workspace.adding_of_addRule hadded).settling_of_unnamed horder hname hfirst with
        ⟨draw, hdraw, hsettle⟩
      cases hdraw
      exact answers_of_drawn horder (drawUnused_next space.names kind (space.lexer.addMode mode))
        hname hpublic hpart hbody hfirst hsettle

/-- **A rule that has been added is answered from then on,** with a rule of the same name if any. -/
lemma exists_answers (horder : space.lexer.InOrder) (hpart : rule.body.isParserPart = false)
    (hunnamed : rule.name = "" → rule.isFragment = false ∧
      ∀ kind number, rule.body ≠ .text (numbered kind number))
    (hadded : space.addRule mode rule kind = (mid, .ok stored)) :
    ∃ answer, Answers mid.lexer mode rule answer ∧
      (answer.map Rule.name).getD (ruleName rule.name)
        = (stored.map Rule.name).getD (ruleName rule.name) := by
  by_cases hname : rule.name = ""
  · rcases hunnamed hname with ⟨hpublic, hbody⟩
    exact ⟨stored, answers_of_unnamed horder hname hpublic hpart hbody hadded, rfl⟩
  · rcases Prod.mk.inj hadded with ⟨rfl, hstored⟩
    exact horder.exists_answers_of_named hname hpart hstored

/-! ## Runs that change nothing -/

/-- **Whether a run is idle from a lexer on:** it goes through and changes nothing but the records,
in any workspace whose lexer has grown from that one. -/
def IdleFrom (lexer : LexerGrammar) (run : Workspace → Step Unit) : Prop :=
  ∀ space, space.lexer.InOrder → Grown lexer space.lexer →
    ∃ after, run space = (after, .ok ()) ∧ after.lexer = space.lexer ∧ after.names = space.names

lemma IdleFrom.of_grown {run : Workspace → Step Unit} (h : IdleFrom lexer run)
    (hgrown : Grown lexer lexer') : IdleFrom lexer' run :=
  fun space horder hspace => h space horder (hgrown.trans hspace)

/-- A run that is idle is so after another one that has changed nothing. -/
lemma IdleFrom.next {run : Workspace → Step Unit} (h : IdleFrom lexer run)
    (horder : space.lexer.InOrder) (hgrown : Grown lexer space.lexer)
    (hlexer : mid.lexer = space.lexer) (hnames : mid.names = space.names) :
    ∃ after, run mid = (after, .ok ()) ∧ after.lexer = space.lexer ∧
      after.names = space.names := by
  rw [← hlexer] at horder hgrown
  rcases h mid horder hgrown with ⟨after, hrun, hlexer', hnames'⟩
  exact ⟨after, hrun, hlexer'.trans hlexer, hnames'.trans hnames⟩

/-- **A request that has an answer** is idle, and the rest goes on with the name of the answer. -/
lemma idleFrom_mapStates_cons (hnow : ¬(spec.isPrivate && state ≠ canonical) = true)
    (hanswers : Answers lexer (modeName state)
      (stateRule settings kind spec body canonical target state) answer)
    (hrest : IdleFrom lexer (mapStates settings kind spec body canonical states
      (if state = canonical then (answer.map Rule.name).getD target else target))) :
    IdleFrom lexer (mapStates settings kind spec body canonical (state :: states) target) := by
  intro space horder hgrown
  rcases horder.addRule_of_answers (hanswers.of_grown hgrown) space.names
    (some fun names => names.next kind) with ⟨hlexer, hnames, hresult⟩
  obtain ⟨mid, hadded, hmid, hmidnames⟩ : ∃ mid, (space.noting (privateWarning spec)).addRule
      (modeName state) (stateRule settings kind spec body canonical target state) kind
        = (mid, .ok answer) ∧ mid.lexer = space.lexer ∧ mid.names = space.names :=
    ⟨_, Prod.ext rfl hresult, hlexer, hnames⟩
  rw [mapStates_cons_of_ok hnow hadded]
  exact hrest.next horder hgrown hmid hmidnames

/-- **The rules for the other states** are all found again. -/
lemma idleFrom_others (hpublic : spec.isPrivate = false) (states : List String) :
    ∀ (space : Workspace), space.lexer.InOrder → (∀ state ∈ states, state ≠ canonical) →
      mapStates settings kind spec body canonical states target space = (after, .ok ()) →
      IdleFrom after.lexer (mapStates settings kind spec body canonical states target) := by
  induction states with
  | nil => exact fun _ _ _ _ space _ _ => ⟨space, rfl, rfl, rfl⟩
  | cons state states ih =>
      intro space horder hstates hrun
      have hstate : state ≠ canonical := hstates state List.mem_cons_self
      have hnow : ¬(spec.isPrivate && state ≠ canonical) = true := by simp [hpublic]
      rcases mapStates_cons_ok hnow hrun with ⟨mid, stored, hadded, hrest⟩
      rw [if_neg hstate] at hrest
      rcases stateRule_other settings kind hpublic body target hstate with ⟨hname, hbody⟩
      have hpart : (stateRule settings kind spec body canonical target state).body.isParserPart
          = false := by rw [hbody]; rfl
      have hnamed : (stateRule settings kind spec body canonical target state).name ≠ "" :=
        hname ▸ prefixed_ne_empty state target
      have hnoted : (space.noting (privateWarning spec)).lexer.InOrder := horder
      rcases exists_answers hnoted hpart (fun hempty => absurd hempty hnamed) hadded with
        ⟨answer, hanswers, -⟩
      refine idleFrom_mapStates_cons hnow (hanswers.of_grown (grown_of_mapStates hrest)) ?_
      rw [if_neg hstate]
      exact ih mid (inOrder_of_addRule horder hadded)
        (fun other hother => hstates other (List.mem_cons_of_mem state hother)) hrest

lemma ruleName_givenName (spec : TokenSpec) : ruleName (givenName spec) = givenName spec := by
  rw [givenName]
  cases spec.label? with
  | none => rfl
  | some label => exact ruleName_ruleName label

/-- **The canonical rule of a token that is recognised** is answered from then on, and the name for
the rules of the other states stays the same. -/
lemma exists_answers_canonical {records : List LogRecord}
    (hspec : Recognisable settings production spec)
    (hbody : specBody settings production spec = .ok body) (horder : space.lexer.InOrder)
    (hadded : (space.noting records).addRule (modeName canonical)
      (stateRule settings kind spec body canonical (givenName spec) canonical) kind
        = (mid, .ok stored)) :
    ∃ answer, Answers mid.lexer (modeName canonical)
        (stateRule settings kind spec body canonical (givenName spec) canonical) answer ∧
      (answer.map Rule.name).getD (givenName spec)
        = (stored.map Rule.name).getD (givenName spec) := by
  rcases hspec body hbody with ⟨hpart, hlabel⟩
  rcases stateRule_self settings kind spec body canonical (givenName spec) with ⟨hname, hrulebody⟩
  have hnoted : (space.noting records).lexer.InOrder := horder
  rw [← hrulebody] at hpart hlabel
  have hanswers := exists_answers hnoted hpart (fun hempty => by
    rw [isFragment_stateRule]
    exact hlabel (label?_eq_none_of_givenName (hname ▸ hempty))) hadded
  rwa [hname, ruleName_givenName] at hanswers

/-- **A token that is recognised** is found again in each of its states. -/
lemma idleFrom_mapSpec (hspec : Recognisable settings production spec)
    (horder : space.lexer.InOrder)
    (hrun : mapSpec settings production kind canonical (canonicalFirst canonical states) spec space
      = (after, .ok ())) :
    IdleFrom after.lexer
      (mapSpec settings production kind canonical (canonicalFirst canonical states) spec) := by
  cases hbody : specBody settings production spec with
  | error failure =>
      rw [mapSpec, hbody] at hrun
      cases hrun
  | ok body =>
      have hmapped :
          mapSpec settings production kind canonical (canonicalFirst canonical states) spec
            = mapStates settings kind spec body canonical (canonicalFirst canonical states)
                (givenName spec) := by
        funext space
        rw [mapSpec, hbody]
        rfl
      rw [hmapped] at hrun ⊢
      have hnow : ¬(spec.isPrivate && canonical ≠ canonical) = true := by simp
      rcases mapStates_cons_ok hnow hrun with ⟨mid, stored, hadded, hrest⟩
      rw [if_pos rfl] at hrest
      rcases exists_answers_canonical hspec hbody horder hadded with ⟨answer, hanswers, hsame⟩
      refine idleFrom_mapStates_cons hnow (hanswers.of_grown (grown_of_mapStates hrest)) ?_
      rw [if_pos rfl, hsame]
      cases hprivate : spec.isPrivate with
      | true =>
          intro space _ _
          exact ⟨space, mapStates_private hprivate (by simp), rfl, rfl⟩
      | false =>
          exact idleFrom_others hprivate _ mid (inOrder_of_addRule horder hadded) (by simp) hrest

lemma idleFrom_mapSpecs (specs : List TokenSpec)
    (hspecs : ∀ spec ∈ specs, Recognisable settings production spec) :
    ∀ (space : Workspace), space.lexer.InOrder →
      mapSpecs settings production kind canonical (canonicalFirst canonical states) specs space
        = (after, .ok ()) →
      IdleFrom after.lexer
        (mapSpecs settings production kind canonical (canonicalFirst canonical states) specs) := by
  induction specs with
  | nil => exact fun _ _ _ space _ _ => ⟨space, rfl, rfl, rfl⟩
  | cons spec specs ih =>
      intro space horder hrun
      rw [mapSpecs] at hrun
      split at hrun
      · cases hrun
      · rename_i mid hmapped
        have hfirst := (idleFrom_mapSpec (hspecs spec List.mem_cons_self) horder hmapped).of_grown
          (grown_of_mapSpecs hrun)
        have hrest := ih (fun other hother => hspecs other (List.mem_cons_of_mem spec hother)) mid
          (inOrder_of_mapSpec horder hmapped) hrun
        intro again horder' hgrown'
        rcases hfirst again horder' hgrown' with ⟨mid', hmapped', hlexer, hnames⟩
        rw [mapSpecs, hmapped']
        exact hrest.next horder' hgrown' hlexer hnames

/-! ## The whole production -/

lemma addModes_of_mem (states : List String)
    (h : ∀ state ∈ states, modeName state ∈ space.lexer.modes.map Mode.name) :
    space.addModes states = space := by
  induction states with
  | nil => rfl
  | cons state states ih =>
      have hfirst : space.lexer.addMode (modeName state) = space.lexer :=
        addMode_of_mem (h state List.mem_cons_self)
      rw [Workspace.addModes, List.foldl_cons, hfirst]
      exact ih fun other hother => h other (List.mem_cons_of_mem state hother)

/-- **A production that has gone through** is idle from then on. -/
lemma idleFrom_mapProduction
    (hspecs : ∀ spec ∈ production.specs, Recognisable settings production spec)
    (horder : space.lexer.InOrder)
    (hrun : mapProduction settings production space = (after, .ok ())) :
    IdleFrom after.lexer (mapProduction settings production) := by
  by_cases hexplicit : production.isExplicit = true
  · rcases exists_mapSpecs hexplicit hrun with ⟨kind, canonical, hkind, hcanonical, hmapped⟩
    have hmodes : (space.addModes production.states).lexer.InOrder :=
      kept_inOrder.addModes production.states horder
    have hidle := idleFrom_mapSpecs production.specs hspecs _ hmodes hmapped
    have hgrown := grown_of_mapSpecs hmapped
    intro again horder' hgrown'
    have hregistered : again.addModes production.states = again := by
      refine addModes_of_mem production.states fun state hstate => hgrown'.modes.subset ?_
      exact hgrown.modes.subset ((mem_modes_addModes _ space _).mpr (.inr ⟨state, hstate, rfl⟩))
    rw [mapProduction_of_explicit hexplicit hkind hcanonical, hregistered]
    exact hidle again horder' hgrown'
  · have himplicit := (Bool.not_eq_true _).mp hexplicit
    exact fun again _ _ => ⟨again, mapProduction_of_implicit himplicit again, rfl, rfl⟩

/-- **Mapping a production twice is mapping it once.**  In a workspace that is reachable, let a
production go through whose tokens are recognised when they come again.  Then it goes through once
more, and leaves the lexer with all its modes, rules and letter rules as it is, and the names that
are left, too. -/
theorem mapProduction_again (h : Reachable settings space)
    (hspecs : ∀ spec ∈ production.specs, Recognisable settings production spec)
    (hrun : mapProduction settings production space = (after, .ok ())) :
    (mapProduction settings production after).2 = .ok () ∧
      (mapProduction settings production after).1.lexer = after.lexer ∧
      (mapProduction settings production after).1.names = after.names := by
  have horder : after.lexer.InOrder := by
    have hkept := kept_inOrder.mapProduction settings production h.inOrder
    rwa [hrun] at hkept
  rcases idleFrom_mapProduction hspecs h.inOrder hrun after horder (Grown.refl after.lexer) with
    ⟨again, hagain, hlexer, hnames⟩
  rw [hagain]
  exact ⟨rfl, hlexer, hnames⟩

end Repetition

/-- A token with the label of a letter and one without a label, in two states. -/
def letterToken : TokenProduction :=
  { kind := .known .token
    listedStates := ["DEFAULT", "S"]
    specs :=
      [{ tree := .regex (.literal "a"), label := some "A" }, { tree := .regex (.literal "+") }] }

/-- A workspace with letter rules. -/
def lettered : Workspace :=
  { lexer := LexerGrammar.enableLetters { name := "L" } }

/-- The first run stores four rules and takes up a letter rule, the second one changes nothing. -/
theorem mapProduction_again_letterToken :
    let once := (mapProduction { ignoreCase := true } letterToken lettered).1
    once.lexer.rules.map Rule.name = ["A", "TOKEN0", "S_A", "S_TOKEN0"] ∧
      (mapProduction { ignoreCase := true } letterToken once).2 = .ok () ∧
      (mapProduction { ignoreCase := true } letterToken once).1.lexer = once.lexer ∧
      (mapProduction { ignoreCase := true } letterToken once).1.names = once.names := by
  have hreachable : Reachable { ignoreCase := true } lettered := .lettersEnabled (.fresh "L" [] [])
  have hok : (mapProduction { ignoreCase := true } letterToken lettered).2 = .ok () := rfl
  refine ⟨rfl, mapProduction_again hreachable ?_ (Prod.ext rfl hok)⟩
  intro spec hspec
  rcases List.mem_cons.mp hspec with rfl | hspec
  · exact Recognisable.of_regex rfl (.inl (by decide))
  · obtain rfl := List.mem_singleton.mp hspec
    refine Recognisable.of_regex rfl (.inr ⟨rfl, fun name hname hbody => ?_⟩)
    have hplus : "'+'" = name := Body.text.inj (Except.ok.inj hbody)
    rw [← hplus] at hname
    exact absurd hname (by decide)

end GrammarConversion.Conversion
