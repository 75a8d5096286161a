import GrammarConversion.Proofs.LexerRule.Failures
import GrammarConversion.Proofs.LexerState.Run
import GrammarConversion.Proofs.LexerState.Step

/-!
# Token productions that cannot be converted

Rules are only refused for their names, and productions only for a kind that is not known: both are
conversion errors.  So where the regular expressions of tokens are nodes, the only other failure is
that of a range whose ends are not characters, and only if all that comes before it goes through
(`StopsAtLongEnd`).

**Which functions convert tokens.**  Those of an explicit production are mapped to its states, those
of any other one are promoted.  What matters here is the same for both (`ConvertsSpecs`).
-/

namespace GrammarConversion.Antlr.LexerGrammar

variable {lexer lexer' : LexerGrammar} {mode : String} {rule : Rule} {failure : Failure}

lemma Placing.isOfGrammar (h : Placing lexer mode rule lexer' (.error failure)) :
    failure.IsOfGrammar := by
  cases h with
  | conflict => exact .namingConflict _ _ _

lemma Settling.isOfGrammar (h : Settling lexer mode rule lexer' (.error failure)) :
    failure.IsOfGrammar := by
  cases h with
  | ordinary _ hplace => exact hplace.isOfGrammar
  | letter _ _ hplace => exact hplace.isOfGrammar
  | refused => exact .namingConflict _ _ _

end GrammarConversion.Antlr.LexerGrammar

namespace GrammarConversion.Conversion

open Antlr
open LexerGrammar
open Model

/-- **Whether the tree of a token is a regular expression** or a part of one. -/
def HoldsRegex (spec : TokenSpec) : Prop :=
  ∃ node, spec.tree = .regex node ∧ node.isNode = true

/-- **Whether the conversion of some token productions stops at a range whose ends are not
characters.**  What comes before goes through, and in the tree of the token nothing else is wrong
before that range. -/
def StopsAtLongEnd (settings : TokenSettings) (productions : List TokenProduction)
    (space : Workspace) : Prop :=
  ∃ earlier production later specs spec specs', productions = earlier ++ production :: later ∧
    production.specs = specs ++ spec :: specs' ∧
    (convertTokenProductions settings (earlier ++ [{ production with specs := specs }]) space).2
      = .ok () ∧
    ∃ node, spec.tree = .regex node ∧ node.MeetsLongEnd

section Failures

variable {settings : TokenSettings} {production : TokenProduction} {kind : ProductionKind}
  {spec : TokenSpec} {specs specs' : List TokenSpec} {productions : List TokenProduction}
  {rule : Rule} {body : Body} {mode canonical target : String} {states : List String}
  {space : Workspace} {failure : Failure}

/-! ## Rules -/

/-- **Rules are only refused for their names.** -/
lemma isOfGrammar_of_addRule (h : (space.addRule mode rule kind).2 = .error failure) :
    failure.IsOfGrammar := by
  have hadding := addRule_cases space.lexer mode rule space.names (some fun names => names.next kind)
  have herror : (space.lexer.addRule mode rule space.names
      (some fun names => names.next kind)).result = .error failure := h
  rw [herror] at hadding
  generalize (space.lexer.addRule mode rule space.names _).lexer = lexer' at hadding
  generalize (space.lexer.addRule mode rule space.names _).names = names' at hadding
  cases hadding with
  | named _ hsettle => exact hsettle.isOfGrammar
  | unnamed _ hdraw => cases hdraw
  | drawn _ _ _ hsettle => exact hsettle.isOfGrammar

lemma isOfGrammar_of_mapStates
    (h : (mapStates settings kind spec body canonical states target space).2 = .error failure) :
    failure.IsOfGrammar := by
  induction states generalizing target space with
  | nil => cases h
  | cons state states ih =>
      rw [mapStates_cons] at h
      split at h
      · exact ih h
      · rcases hadded : (space.noting (privateWarning spec)).addRule (modeName state)
          (stateRule settings kind spec body canonical target state) kind with ⟨mid, failure' | stored⟩
        · rw [hadded] at h
          obtain rfl := Except.error.inj h
          exact isOfGrammar_of_addRule (congrArg Prod.snd hadded)
        · rw [hadded] at h
          exact ih h

/-! ## Tokens -/

/-- **A function that converts tokens of a production** fails if it comes to one whose body fails,
and otherwise with conversion errors only. -/
structure ConvertsSpecs (settings : TokenSettings) (production : TokenProduction)
    (run : List TokenSpec → Workspace → Step Unit) : Prop where
  sequential : Sequential run
  fails : ∀ {spec space failure}, specBody settings production spec = .error failure →
    (run [spec] space).2 = .error failure
  cases : ∀ {spec space failure}, (run [spec] space).2 = .error failure →
    specBody settings production spec = .error failure ∨ failure.IsOfGrammar

lemma convertsSpecs_mapSpecs (settings : TokenSettings) (production : TokenProduction)
    (kind : ProductionKind) (canonical : String) (states : List String) :
    ConvertsSpecs settings production (mapSpecs settings production kind canonical states) := by
  have hsingle : ∀ spec space, mapSpecs settings production kind canonical states [spec] space
      = mapSpec settings production kind canonical states spec space := by
    intro spec space
    rw [mapSpecs_cons]
    exact andThen_done fun _ => rfl
  refine ⟨.of_step (fun _ => rfl) fun _ _ _ => mapSpecs_cons, fun hbody => ?_, fun herror => ?_⟩
  · rw [hsingle, mapSpec, hbody]
  · rw [hsingle, mapSpec] at herror
    split at herror
    · rename_i hbody
      obtain rfl := Except.error.inj herror
      exact .inl hbody
    · exact .inr (isOfGrammar_of_mapStates herror)

lemma convertsSpecs_promoteSpecs (settings : TokenSettings) (production : TokenProduction) :
    ConvertsSpecs settings production (promoteSpecs settings production) := by
  have hfails : ∀ {spec specs space failure}, specBody settings production spec = .error failure →
      promoteSpecs settings production (spec :: specs) space = (space, .error failure) := by
    intro spec specs space failure hbody
    rw [promoteSpecs, hbody]
  refine ⟨⟨fun _ => rfl, fun spec specs space => ?_⟩, fun hbody => ?_, fun herror => ?_⟩
  · cases hbody : specBody settings production spec with
    | error failure =>
        rw [hfails hbody, hfails hbody]
        rfl
    | ok body =>
        rw [promoteSpecs_cons hbody, promoteSpecs_cons hbody]
        split
        · rfl
        · generalize (space.noting _).addRule _ _ _ = step
          rcases step with ⟨mid, failure | stored⟩ <;> rfl
  · rw [hfails hbody]
  · rename_i spec space failure
    cases hbody : specBody settings production spec with
    | error failure' =>
        rw [hfails hbody] at herror
        obtain rfl := Except.error.inj herror
        exact .inl rfl
    | ok body =>
        rw [promoteSpecs_cons hbody] at herror
        split at herror
        · cases herror
        · rcases hadded : (space.noting [⟨.debug, "lexer_mapper",
              "promoting literal " ++ body.shown ++ " to a token rule"⟩]).addRule defaultMode
              { name := (spec.label?.map ruleName).getD "", body := body } .token
            with ⟨mid, failure' | stored⟩
          · rw [hadded] at herror
            obtain rfl := Except.error.inj herror
            exact .inr (isOfGrammar_of_addRule (congrArg Prod.snd hadded))
          · rw [hadded] at herror
            cases herror

/-- **The first token whose body fails** decides, or else the failure is a conversion error. -/
lemma ConvertsSpecs.cases_of_error {run : List TokenSpec → Workspace → Step Unit}
    (h : ConvertsSpecs settings production run) (herror : (run specs space).2 = .error failure) :
    failure.IsOfGrammar ∨ ∃ before spec after, specs = before ++ spec :: after ∧
      (run before space).2 = .ok () ∧ specBody settings production spec = .error failure := by
  obtain ⟨before, spec, after, mid, hspecs, hbefore, hspec⟩ := h.sequential.exists_of_error herror
  rcases h.cases hspec with hbody | hgrammar
  · exact .inr ⟨before, spec, after, hspecs, by rw [hbefore], hbody⟩
  · exact .inl hgrammar

/-! ## Productions -/

/-- How a token is mapped does not depend on the other ones of its production. -/
lemma mapSpecs_withSpecs (others specs : List TokenSpec) :
    ∀ space, mapSpecs settings { production with specs := others } kind canonical states specs space
      = mapSpecs settings production kind canonical states specs space := by
  induction specs with
  | nil => exact fun _ => rfl
  | cons spec specs ih =>
      intro space
      rw [mapSpecs_cons, mapSpecs_cons]
      exact congrArg (andThen _) (funext fun _ => funext ih)

lemma promoteSpecs_withSpecs (others specs : List TokenSpec) :
    ∀ space, promoteSpecs settings { production with specs := others } specs space
      = promoteSpecs settings production specs space := by
  induction specs with
  | nil => exact fun _ => rfl
  | cons spec specs ih =>
      intro space
      have hsame : specBody settings { production with specs := others } spec
          = specBody settings production spec := rfl
      cases hbody : specBody settings production spec with
      | error failure => rw [promoteSpecs, promoteSpecs, hsame, hbody]
      | ok body =>
          rw [promoteSpecs_cons hbody, promoteSpecs_cons (hsame.trans hbody), ih]
          exact congrArg _ (congrArg (andThen _) (funext fun _ => funext ih))

/-- **The tokens of a production are converted in the same way,** however many of them there are,
unless its kind is not known. -/
lemma convertProduction_cases (settings : TokenSettings) (production : TokenProduction)
    (space : Workspace) :
    (∃ failure : Failure, failure.IsOfGrammar ∧ ∀ specs,
      (convertProduction settings { production with specs := specs } space).2 = .error failure) ∨
      ∃ run start, ConvertsSpecs settings production run ∧ ∀ specs,
        convertProduction settings { production with specs := specs } space = run specs start := by
  by_cases hexplicit : production.isExplicit = true
  · have hkinds : (∃ name, production.kind = .unknown name) ∨
        ∃ kind, production.kind = .known kind := by
      cases production.kind <;> simp
    rcases hkinds with ⟨name, hkind⟩ | ⟨kind, hkind⟩
    · have hrefused : Failure.IsOfGrammar (.conversion (.unsupported name none)) :=
        .refused (.unsupported name)
      refine .inl ⟨_, hrefused, fun specs => ?_⟩
      rw [convertProduction, if_pos hexplicit, mapProduction, if_neg (by simp [hexplicit])]
      simp only [hkind]
    · obtain ⟨canonical, hcanonical⟩ := exists_canonicalState? production
      refine .inr ⟨_, space.addModes production.states, convertsSpecs_mapSpecs settings
        production kind canonical (canonicalFirst canonical production.states), fun specs => ?_⟩
      have hmapped : mapProduction settings { production with specs := specs } space = _ :=
        mapProduction_of_explicit hexplicit hkind hcanonical
      rw [convertProduction, if_pos hexplicit, hmapped]
      exact mapSpecs_withSpecs specs specs _
  · refine .inr ⟨_, space, convertsSpecs_promoteSpecs settings production, fun specs => ?_⟩
    rw [convertProduction, if_neg hexplicit]
    exact promoteSpecs_withSpecs specs specs space

/-- **A production fails at the first token whose body does,** or with a conversion error. -/
lemma convertProduction_cases_of_error
    (herror : (convertProduction settings production space).2 = .error failure) :
    failure.IsOfGrammar ∨ ∃ specs spec specs', production.specs = specs ++ spec :: specs' ∧
      (convertProduction settings { production with specs := specs } space).2 = .ok () ∧
      specBody settings production spec = .error failure := by
  rcases convertProduction_cases settings production space with
    ⟨failure', hgrammar, hall⟩ | ⟨run, start, hconverts, hall⟩
  · obtain rfl := Except.error.inj ((hall production.specs).symm.trans herror)
    exact .inl hgrammar
  · have hrun : (run production.specs start).2 = .error failure := by
      rw [← hall]
      exact herror
    refine (hconverts.cases_of_error hrun).imp_right ?_
    rintro ⟨specs, spec, specs', hspecs, hbefore, hbody⟩
    exact ⟨specs, spec, specs', hspecs, by rw [hall]; exact hbefore, hbody⟩

lemma convertProduction_error_of_specBody (hspecs : production.specs = specs ++ spec :: specs')
    (hbefore : (convertProduction settings { production with specs := specs } space).2 = .ok ())
    (hbody : specBody settings production spec = .error failure) :
    (convertProduction settings production space).2 = .error failure := by
  rcases convertProduction_cases settings production space with
    ⟨failure', hgrammar, hall⟩ | ⟨run, start, hconverts, hall⟩
  · rw [hall specs] at hbefore
    cases hbefore
  · rw [hall specs] at hbefore
    have hrun : convertProduction settings production space = run production.specs start :=
      hall production.specs
    rw [hrun, hspecs]
    exact hconverts.sequential.error_of_member (Prod.ext rfl hbefore) (hconverts.fails hbody)

/-! ## Bodies -/

lemma specBody_cases_of_error (hholds : HoldsRegex spec)
    (herror : specBody settings production spec = .error failure) :
    failure.IsOfGrammar ∨
      failure = .notOneCharacter ∧ ∃ node, spec.tree = .regex node ∧ node.MeetsLongEnd := by
  rcases hholds with ⟨node, htree, hnode⟩
  rw [specBody, htree, tokenBody] at herror
  have hfate := lexerBody_fate (settings.ignoreCase || production.ignoreCase || spec.ignoreCase)
    spec.label node hnode
  generalize lexerBody (tokenContext _ spec.label) node = result at hfate herror
  cases hfate with
  | converted => cases herror
  | longEnd hlong =>
      obtain rfl := Except.error.inj herror
      exact .inr ⟨rfl, node, htree, hlong⟩
  | refused hrefuses =>
      obtain rfl := Except.error.inj herror
      exact .inl (.refused hrefuses)

lemma specBody_of_meetsLongEnd {node : Regex} (htree : spec.tree = .regex node)
    (h : node.MeetsLongEnd) : specBody settings production spec = .error .notOneCharacter := by
  rw [specBody, htree, tokenBody, lexerBody_of_meetsLongEnd h]
  rfl

/-! ## All token productions -/

lemma sequential_convertTokenProductions (settings : TokenSettings) :
    Sequential (convertTokenProductions settings) :=
  .of_step (fun _ => rfl) fun _ _ _ => convertTokenProductions_cons

lemma convertTokenProductions_single (settings : TokenSettings) (production : TokenProduction)
    (space : Workspace) :
    convertTokenProductions settings [production] space
      = convertProduction settings production space := by
  rw [convertTokenProductions_cons]
  exact andThen_done fun _ => rfl

/-- Where all productions go through, each of them does. -/
lemma exists_convertProduction {earlier later : List TokenProduction} {last : Workspace}
    (h : convertTokenProductions settings (earlier ++ production :: later) space
      = (last, .ok ())) :
    ∃ before after, convertTokenProductions settings earlier space = (before, .ok ()) ∧
      convertProduction settings production before = (after, .ok ()) ∧
      convertTokenProductions settings later after = (last, .ok ()) := by
  have hsequential := sequential_convertTokenProductions settings
  rcases hsequential.of_append_ok h with ⟨before, hearlier, hrest⟩
  rw [← List.singleton_append] at hrest
  rcases hsequential.of_append_ok hrest with ⟨after, hproduction, hlater⟩
  rw [convertTokenProductions_single] at hproduction
  exact ⟨before, after, hearlier, hproduction, hlater⟩

/-- **Token productions fail with conversion errors,** or they stop at a range whose ends are not
characters. -/
lemma cases_of_convertTokenProductions_error
    (hholds : ∀ production ∈ productions, ∀ spec ∈ production.specs, HoldsRegex spec)
    (herror : (convertTokenProductions settings productions space).2 = .error failure) :
    failure.IsOfGrammar ∨
      failure = .notOneCharacter ∧ StopsAtLongEnd settings productions space := by
  obtain ⟨earlier, production, later, mid, rfl, hearlier, hproduction⟩ :=
    (sequential_convertTokenProductions settings).exists_of_error herror
  rw [convertTokenProductions_single] at hproduction
  rcases convertProduction_cases_of_error hproduction with
    hgrammar | ⟨specs, spec, specs', hspecs, hbefore, hbody⟩
  · exact .inl hgrammar
  · have hspec : HoldsRegex spec := hholds production (by simp) spec (by simp [hspecs])
    refine (specBody_cases_of_error hspec hbody).imp_right fun ⟨hfailure, hlong⟩ => ⟨hfailure,
      earlier, production, later, specs, spec, specs', rfl, hspecs, ?_, hlong⟩
    rwa [(sequential_convertTokenProductions settings).append_of_ok hearlier,
      convertTokenProductions_single]

lemma StopsAtLongEnd.convertTokenProductions_error
    (h : StopsAtLongEnd settings productions space) :
    (convertTokenProductions settings productions space).2 = .error .notOneCharacter := by
  obtain ⟨earlier, production, later, specs, spec, specs', rfl, hspecs, hbefore, node, htree,
    hlong⟩ := h
  have hsequential := sequential_convertTokenProductions settings
  rw [hsequential.append] at hbefore
  rcases hearlier : convertTokenProductions settings earlier space with ⟨mid, failure | _⟩
  · rw [hearlier] at hbefore
    cases hbefore
  · rw [hearlier] at hbefore
    have hproduction : (convertProduction settings { production with specs := specs } mid).2
        = .ok () := by
      rw [← convertTokenProductions_single]
      exact hbefore
    refine hsequential.error_of_member hearlier ?_
    rw [convertTokenProductions_single]
    exact convertProduction_error_of_specBody hspecs hproduction
      (specBody_of_meetsLongEnd htree hlong)

end Failures

end GrammarConversion.Conversion
