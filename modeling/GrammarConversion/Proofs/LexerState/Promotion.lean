import GrammarConversion.Proofs.LexerState.Failures
import GrammarConversion.Proofs.LexerState.Literals

/-!
# Literals of BNF productions

A literal of a BNF production gets a rule in the default mode, unless some mode has a token rule for
it when its turn comes.  So the default mode need not have one (`promotion_exceptions`): the rule
that is found may be in another mode.

Where no rule is found, one is asked for under the label of the literal, and the label may be in the
way (`LabelBlocks`): a fragment of that name is taken for the rule, and a rule whose label is its
body would only refer to itself.

**`hasToken_of_promoted`: there is no other reason,** and each of these is one.  Where a literal is
left out (`LeftOut`), its turn leaves no token rule for it in the default mode.
-/

namespace GrammarConversion.Conversion

open Antlr
open LexerGrammar
open Model

section Promotion

variable {grammar : Grammar} {production : TokenProduction} {spec : TokenSpec} {body : Body}
  {image name : String} {start after space : Workspace}

/-! ## Turns within a conversion -/

/-- **The workspace when the turn of a literal comes:** some productions have been converted, and
some literals of the next one. -/
def promotionStart (name : String) (grammar : Grammar) (productions : List TokenProduction)
    (production : TokenProduction) (specs : List TokenSpec) : Workspace :=
  let converted := convertTokenProductions (tokenSettings grammar) productions
    (initialWorkspace name grammar)
  (promoteSpecs (tokenSettings grammar) production specs converted.1).1

section Turns

variable {earlier later : List TokenProduction} {specs rest : List TokenSpec}

/-- Where a conversion goes through, all that comes before the turn of a literal does, and all that
comes after it. -/
lemma promoteSpecs_promotionStart (hrun : convertTokens name grammar = (space, .ok ()))
    (hproductions : grammar.tokenProductions = earlier ++ production :: later)
    (himplicit : production.isExplicit = false) (hspecs : production.specs = specs ++ rest) :
    ∃ converted promoted,
      convertTokenProductions (tokenSettings grammar) earlier (initialWorkspace name grammar)
          = (converted, .ok ()) ∧
        promoteSpecs (tokenSettings grammar) production specs converted
          = (promotionStart name grammar earlier production specs, .ok ()) ∧
        promoteSpecs (tokenSettings grammar) production rest
            (promotionStart name grammar earlier production specs) = (promoted, .ok ()) ∧
        convertTokenProductions (tokenSettings grammar) later promoted = (space, .ok ()) := by
  rw [convertTokens, hproductions] at hrun
  rcases exists_convertProduction hrun with ⟨converted, promoted, hearlier, hpromotes, hlater⟩
  rw [convertProduction, himplicit, if_neg Bool.false_ne_true, promoteLiterals, hspecs]
    at hpromotes
  rcases (convertsSpecs_promoteSpecs _ production).sequential.of_append_ok hpromotes with
    ⟨start, hbefore, hturn⟩
  have hstart : promotionStart name grammar earlier production specs = start := by
    rw [promotionStart, hearlier]
    exact congrArg Prod.fst hbefore
  rw [hstart]
  exact ⟨converted, promoted, hearlier, hbefore, hturn, hlater⟩

/-- **A conversion passes the workspace in which the turn of a literal comes.** -/
lemma reaches_promotionStart (hrun : convertTokens name grammar = (space, .ok ()))
    (hproductions : grammar.tokenProductions = earlier ++ production :: later)
    (himplicit : production.isExplicit = false) (hspecs : production.specs = specs ++ rest) :
    Reaches grammar (initialWorkspace name grammar)
        (promotionStart name grammar earlier production specs) ∧
      ∃ promoted, promoteSpecs (tokenSettings grammar) production rest
          (promotionStart name grammar earlier production specs) = (promoted, .ok ()) ∧
        Reaches grammar promoted space := by
  have hproduction : production ∈ grammar.tokenProductions := by simp [hproductions]
  have hinitial := Workspace.sound_initialWorkspace name grammar
  rcases promoteSpecs_promotionStart hrun hproductions himplicit hspecs with
    ⟨converted, promoted, hearlier, hbefore, hturn, hlater⟩
  have hconverted := (turned_of_convertTokenProductions earlier _
    (by simp +contextual [hproductions]) hinitial hearlier).1
  have hreaches := hconverted.trans (turned_of_promoteSpecs hproduction himplicit specs _
    (by simp +contextual [hspecs]) hbefore).1
  have hpromoted := (turned_of_promoteSpecs hproduction himplicit rest _
    (by simp +contextual [hspecs]) hturn).1
  exact ⟨hreaches, promoted, hturn, (turned_of_convertTokenProductions later _
    (by simp +contextual [hproductions]) (Reaches.sound (hreaches.trans hpromoted) hinitial)
    hlater).1⟩

/-- **The turn of a literal leads to that of the next one.** -/
lemma promoteSpecs_turn (hrun : convertTokens name grammar = (space, .ok ()))
    (hproductions : grammar.tokenProductions = earlier ++ production :: later)
    (himplicit : production.isExplicit = false)
    (hspecs : production.specs = specs ++ spec :: rest) :
    promoteSpecs (tokenSettings grammar) production [spec]
        (promotionStart name grammar earlier production specs)
      = (promotionStart name grammar earlier production (specs ++ [spec]), .ok ()) := by
  have hnext : production.specs = (specs ++ [spec]) ++ rest := by
    rw [hspecs, List.append_cons]
  rcases promoteSpecs_promotionStart hrun hproductions himplicit hspecs with
    ⟨converted, _, hearlier, hbefore, _⟩
  rcases promoteSpecs_promotionStart hrun hproductions himplicit hnext with
    ⟨converted', _, hearlier', hthrough, _⟩
  obtain rfl : converted = converted' := congrArg Prod.fst (hearlier.symm.trans hearlier')
  rw [← hthrough]
  exact ((convertsSpecs_promoteSpecs _ production).sequential.append_of_ok hbefore).symm

end Turns

/-! ## The turn of a literal -/

/-- **Why the turn of a literal leaves no token rule in the default mode.** -/
inductive LeftOut (lexer : LexerGrammar) (spec : TokenSpec) (body : Body) : Prop
  /-- There is a token rule already, but in another mode. -/
  | elsewhere {mode : String} (hmode : mode ≠ defaultMode) (htoken : lexer.HasToken mode body)
      (hdefault : ¬lexer.HasToken defaultMode body)
  /-- No mode has one, and the label is in the way. -/
  | blocked (hnone : ∀ mode, ¬lexer.HasToken mode body)
      (hblocks : LabelBlocks lexer defaultMode spec body)

/-- The turn of one literal: nothing changes if a rule is found for it, or else a rule is asked for
in the default mode. -/
lemma promoteSpecs_single_ok (hconverts : Converts grammar production spec body)
    (himplicit : production.isExplicit = false)
    (hturn : promoteSpecs (tokenSettings grammar) production [spec] start = (after, .ok ())) :
    (∃ found, start.lexer.ruleForBody? body = some found ∧ after = start) ∨
      start.lexer.ruleForBody? body = none ∧ ∃ records stored,
        (start.noting records).addRule defaultMode (fullRule production spec body []) .token
          = (after, .ok stored) := by
  rcases promoteSpecs_cons_ok hturn with ⟨body', hbody, hcases⟩
  obtain rfl : body' = body := Except.ok.inj (hbody.symm.trans hconverts.converted)
  rw [fullRule_of_implicit himplicit]
  rcases hcases with ⟨found, hfound, hrest⟩ | ⟨hnone, records, mid, stored, hadded, hrest⟩
  · exact .inl ⟨found, hfound, (congrArg Prod.fst hrest).symm⟩
  · obtain rfl : mid = after := congrArg Prod.fst hrest
    exact .inr ⟨hnone, records, stored, hadded⟩

lemma not_hasToken_of_ruleForBody? (hconverts : Converts grammar production spec body)
    (hliteral : spec.tree = .regex (.literal image))
    (hnone : start.lexer.ruleForBody? body = none) (mode : String) :
    ¬start.lexer.HasToken mode body := by
  rintro ⟨rule, hmem, htoken, hcovers⟩
  rw [(specBody_literal hliteral hconverts.converted).2] at hcovers hnone
  rcases exists_ruleForBody? (mem_rules_of_mem_rulesIn hmem) htoken hcovers with ⟨found, hfound⟩
  exact absurd (hfound.symm.trans hnone) (Option.some_ne_none found)

/-- **The turn of a literal leaves a token rule in the default mode,** unless it is left out. -/
lemma hasToken_or_leftOut (h : start.Accounted grammar)
    (hconverts : Converts grammar production spec body)
    (himplicit : production.isExplicit = false) (hliteral : spec.tree = .regex (.literal image))
    (hturn : promoteSpecs (tokenSettings grammar) production [spec] start = (after, .ok ())) :
    after.lexer.HasToken defaultMode body ∨ LeftOut start.lexer spec body := by
  rcases promoteSpecs_single_ok hconverts himplicit hturn with
    ⟨found, hfound, rfl⟩ | ⟨hnone, records, stored, hadded⟩
  · rcases of_ruleForBody?_eq_some hfound with ⟨hmem, htoken, hcovers⟩
    rcases h.distinctModes.exists_mode hmem with ⟨mode, hrule⟩
    have hexisting : after.lexer.HasToken mode body := ⟨found, hrule, htoken, hcovers⟩
    by_cases hdefault : after.lexer.HasToken defaultMode body
    · exact .inl hdefault
    · refine .inr (.elsewhere (fun hmode => ?_) hexisting hdefault)
      rw [hmode] at hexisting
      exact hdefault hexisting
  · have hnoted : Move grammar start (start.noting records) := .noted start records
    rw [← homeMode_of_implicit himplicit] at hadded
    rcases (hnoted.accounted h).hasToken_of_written hconverts hliteral (by simp [himplicit]) hadded
      with hwritten | hblocks
    · rw [homeMode_of_implicit himplicit] at hwritten
      exact .inl hwritten
    · rw [homeMode_of_implicit himplicit] at hblocks
      exact .inr (.blocked (not_hasToken_of_ruleForBody? hconverts hliteral hnone) hblocks)

/-- **No rule gets past a label that is in the way.** -/
lemma LabelBlocks.rulesIn_eq {mode : String} {commands : List Command} {kind : ProductionKind}
    {stored : Option Rule} (hblocks : LabelBlocks start.lexer mode spec body)
    (h : start.Sound grammar)
    (hadded : start.addRule mode (fullRule production spec body commands) kind
      = (after, .ok stored)) : after.lexer.rulesIn mode = start.lexer.rulesIn mode := by
  cases h.gain hadded with
  | dropped _ _ _ hrules => exact hrules mode
  | kept _ _ _ _ hrules => exact hrules mode
  | added hnew =>
      exfalso
      cases hblocks with
      | fragment hlabel hrule hsame _ _ =>
          refine hnew.names _ hrule (hsame.trans ?_)
          exact (hnew.takes.of_fullRule.1 _ hlabel).symm
      | @itself label hlabel hbody hletter =>
          have hname : (fullRule production spec body commands).name = ruleName label :=
            givenName_eq hlabel
          have hadding := Workspace.adding_of_addRule hadded
          have hsettle := (hadding.settling_of_named (givenName_ne_empty hlabel)).1
          rw [hname, ruleName_ruleName] at hsettle
          rw [letterRule?, ← letterRules_addMode start.lexer mode] at hletter
          cases ((hsettle.placing hletter).of_selfReferring hbody).2

/-- **The turn of a literal that is left out** leaves no token rule for it in the default mode. -/
lemma LeftOut.not_hasToken (hleft : LeftOut start.lexer spec body) (h : start.Accounted grammar)
    (hconverts : Converts grammar production spec body)
    (himplicit : production.isExplicit = false) (hliteral : spec.tree = .regex (.literal image))
    (hturn : promoteSpecs (tokenSettings grammar) production [spec] start = (after, .ok ())) :
    ¬after.lexer.HasToken defaultMode body := by
  have hdefault : ¬start.lexer.HasToken defaultMode body := by
    cases hleft with
    | elsewhere _ _ hdefault => exact hdefault
    | blocked hnone _ => exact hnone defaultMode
  rcases promoteSpecs_single_ok hconverts himplicit hturn with
    ⟨found, hfound, rfl⟩ | ⟨hnone, records, stored, hadded⟩
  · exact hdefault
  · cases hleft with
    | @elsewhere mode _ htoken _ =>
        exact absurd htoken (not_hasToken_of_ruleForBody? hconverts hliteral hnone mode)
    | blocked _ hblocks =>
        have hnoted : LabelBlocks (start.noting records).lexer defaultMode spec body := hblocks
        have hrules := hnoted.rulesIn_eq (h.sound.noting records) hadded
        rwa [HasToken, hrules]

/-- **A literal of a BNF production is matched in the default mode,** unless it is left out when its
turn comes.  That turn leaves no token rule for it in the default mode then.  Token rules that other
modes have for it at that time are there in the finished lexer too. -/
theorem hasToken_of_promoted (hrun : convertTokens name grammar = (space, .ok ()))
    {earlier later : List TokenProduction} {specs specs' : List TokenSpec}
    (hproductions : grammar.tokenProductions = earlier ++ production :: later)
    (himplicit : production.isExplicit = false)
    (hspecs : production.specs = specs ++ spec :: specs')
    (hliteral : spec.tree = .regex (.literal image)) :
    let start := promotionStart name grammar earlier production specs
    let after := promotionStart name grammar earlier production (specs ++ [spec])
    let body := tokenLiteral grammar production spec image
    (space.lexer.HasToken defaultMode body ∨ LeftOut start.lexer spec body) ∧
      (LeftOut start.lexer spec body → ¬after.lexer.HasToken defaultMode body) ∧
      ∀ mode, start.lexer.HasToken mode body → space.lexer.HasToken mode body := by
  intro start after body
  have hproduction : production ∈ grammar.tokenProductions := by simp [hproductions]
  have hspec : spec ∈ production.specs := by simp [hspecs]
  have hnext : production.specs = (specs ++ [spec]) ++ specs' := by
    rw [hspecs, List.append_cons]
  have hturn := promoteSpecs_turn hrun hproductions himplicit hspecs
  have hstart := (reaches_promotionStart hrun hproductions himplicit hspecs).1
  rcases reaches_promotionStart hrun hproductions himplicit hnext with
    ⟨hafter, promoted, hlater, hrest⟩
  have haccounted := hstart.accounted (accounted_initialWorkspace name grammar)
  have hlast : Reaches grammar after space :=
    (turned_of_promoteSpecs hproduction himplicit specs' _ (by simp +contextual [hspecs])
      hlater).1.trans hrest
  have hstep : Reaches grammar start after :=
    (turned_of_promoteSpecs hproduction himplicit [spec] _ (by simp [hspecs]) hturn).1
  have hconverts : Converts grammar production spec body := by
    rcases promoteSpecs_cons_ok hturn with ⟨converted, hbody, -⟩
    rw [(specBody_literal hliteral hbody).2] at hbody
    exact ⟨hproduction, hspec, hbody⟩
  refine ⟨?_, fun hleft => hleft.not_hasToken haccounted hconverts himplicit hliteral hturn, ?_⟩
  · exact (hasToken_or_leftOut haccounted hconverts himplicit hliteral hturn).imp_left
      fun htoken => hlast.hasToken (hstep.sound haccounted.sound) htoken
  · exact fun mode htoken => Reaches.hasToken (hstep.trans hlast) haccounted.sound htoken

end Promotion

/-- A rule `PLUS` for a sign. -/
def plusToken (states : List String) (isPrivate : Bool) : TokenProduction :=
  { kind := .known .token
    listedStates := states
    specs :=
      [{ tree := .regex (.literal "+"), label := some "PLUS", privacy := some isPrivate }] }

/-- The sign as a literal of a BNF production. -/
def plusLiteral (label : Option String) : TokenProduction :=
  { kind := .known .token
    listedStates := ["DEFAULT"]
    specs := [{ tree := .regex (.literal "+"), label := label }]
    isExplicit := false }

def plusGrammar (states : List String) (isPrivate : Bool) (label : Option String) : Grammar :=
  { tokenProductions := [plusToken states isPrivate, plusLiteral label], bnfProductions := [] }

/-- A private rule of the same label in another mode is not in the way. -/
theorem hasToken_of_promoted_plusGrammar :
    (convertTokens "L" (plusGrammar ["S"] true (some "PLUS"))).1.lexer.HasToken defaultMode
      (.text "'+'") := by
  have hok : (convertTokens "L" (plusGrammar ["S"] true (some "PLUS"))).2 = .ok () := rfl
  have hproductions : (plusGrammar ["S"] true (some "PLUS")).tokenProductions
      = [plusToken ["S"] true] ++ plusLiteral (some "PLUS") :: [] := rfl
  have hspecs : (plusLiteral (some "PLUS")).specs
      = [] ++ { tree := .regex (.literal "+"), label := some "PLUS" } :: [] := rfl
  refine (hasToken_of_promoted (Prod.ext rfl hok) hproductions rfl hspecs rfl).1.resolve_right ?_
  have hprivate : (promotionStart "L" (plusGrammar ["S"] true (some "PLUS"))
      [plusToken ["S"] true] (plusLiteral (some "PLUS")) []).lexer.rules.all Rule.isFragment
        = true := rfl
  have hempty : (promotionStart "L" (plusGrammar ["S"] true (some "PLUS"))
      [plusToken ["S"] true] (plusLiteral (some "PLUS")) []).lexer.rulesIn defaultMode = [] := rfl
  rintro (⟨-, ⟨rule, hrule, htoken, -⟩, -⟩ | ⟨-, hblocks⟩)
  · have hfragment := List.all_eq_true.mp hprivate rule (mem_rules_of_mem_rulesIn hrule)
    rw [htoken] at hfragment
    exact Bool.noConfusion hfragment
  · cases hblocks with
    | fragment _ hrule =>
        rw [hempty] at hrule
        cases hrule
    | itself hlabel hbody =>
        obtain rfl := Option.some.inj hlabel
        exact absurd hbody (by decide)

/-- Whether a conversion goes through and leaves no token rule for the sign in the default mode. -/
def LeavesOutPlus (grammar : Grammar) : Prop :=
  (convertTokens "L" grammar).2 = .ok () ∧
    ¬(convertTokens "L" grammar).1.lexer.HasToken defaultMode (.text "'+'")

/-- **The default mode need not have a token rule for a literal.**  There may be one in another
mode; a private rule of the same label may be taken for one; and a rule whose label is its body
would only refer to itself. -/
theorem promotion_exceptions :
    LeavesOutPlus (plusGrammar ["S"] false none) ∧
      LeavesOutPlus (plusGrammar ["DEFAULT"] true (some "PLUS")) ∧
      LeavesOutPlus (plusGrammar ["DEFAULT"] true (some "'+'")) := by
  have hother : (convertTokens "L" (plusGrammar ["S"] false none)).1.lexer.rulesIn defaultMode
      = [] := rfl
  have hprivate : ∀ label ∈ ["PLUS", "'+'"],
      (convertTokens "L" (plusGrammar ["DEFAULT"] true (some label))).1.lexer.rulesIn defaultMode
        = [{ name := "PLUS", body := .text "'+'", isFragment := true }] := by
    intro label hlabel
    rcases List.mem_pair.mp hlabel with rfl | rfl <;> rfl
  refine ⟨⟨rfl, ?_⟩, ⟨rfl, ?_⟩, ⟨rfl, ?_⟩⟩
  · simp [HasToken, hother]
  · simp [HasToken, hprivate]
  · simp [HasToken, hprivate]

end GrammarConversion.Conversion
