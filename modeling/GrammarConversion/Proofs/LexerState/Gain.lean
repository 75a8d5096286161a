import GrammarConversion.Proofs.LexerGrammar.Lookup
import GrammarConversion.Proofs.LexerState.Workspace

/-!
# What an addition to a workspace comes to

An addition that goes through has three ways to go (`Gain`): a rule that would only refer to itself
is dropped, a rule that is there already is kept, and any other rule is added at the end of its mode
(`New`).  In the latter two cases the mode has a rule afterwards that stands for the body that was
asked for.

No rule is lost (`Gain.subset`), none but the new one is gained (`Gain.mem_rulesIn`), and a letter
rule only gives way to a rule of its name (`Gain.letters`).
-/

namespace GrammarConversion.Conversion

open Antlr
open LexerGrammar
open NameSupply

variable {reserved : List String} {lexer lexer' : LexerGrammar} {names names' : NameSupply}
  {mode : String} {rule : Rule} {kind : Model.ProductionKind} {result : Option Rule}

/-- **The name that a rule takes:** its own, or a generated one that no rule has. -/
inductive Takes (reserved : List String) (lexer : LexerGrammar) (rule : Rule) (name : String) :
    Prop
  | given (hne : rule.name ≠ "") (hname : name = ruleName rule.name)
  | drawn (hempty : rule.name = "") (hgenerated : IsGenerated reserved name)
      (hfree : ∀ mode, ∀ other ∈ lexer.rulesIn mode, other.name ≠ name)

/-- **A new rule of a mode** for the rule that was asked for. -/
structure New (reserved : List String) (lexer : LexerGrammar) (mode : String) (rule stored : Rule) :
    Prop where
  takes : Takes reserved lexer rule stored.name
  covers : stored.Covers rule.body
  commands : stored.commands = rule.commands
  fragment : stored.isFragment = rule.isFragment
  names : ∀ other ∈ lexer.rulesIn mode, other.name ≠ stored.name
  letter : ∀ letter ∈ lexer.letterRules, letter.name = stored.name → stored.body = letter.body
  body : stored.body = rule.body ∨ ∃ letter ∈ allLetterRules, stored.body = letter.body

/-- **What an addition that goes through comes to.** -/
inductive Gain (reserved : List String) (lexer : LexerGrammar) (mode : String) (rule : Rule)
    (lexer' : LexerGrammar) : Option Rule → Prop
  /-- The rule would only refer to itself. -/
  | dropped {name : String} (htakes : Takes reserved lexer rule name)
      (hself : rule.body = .text name) (hletter : lexer.letterRule? name = none)
      (hrules : ∀ other, lexer'.rulesIn other = lexer.rulesIn other)
      (hletters : lexer'.letterRules = lexer.letterRules) :
      Gain reserved lexer mode rule lexer' none
  /-- The mode has the rule already. -/
  | kept {stored : Rule} (hmem : stored ∈ lexer.rulesIn mode) (hcovers : stored.Covers rule.body)
      (hnamed : rule.name ≠ "" → stored.name = ruleName rule.name)
      (htoken : rule.name = "" → stored.isFragment = false)
      (hrules : ∀ other, lexer'.rulesIn other = lexer.rulesIn other)
      (hletters : ∀ letter ∈ lexer.letterRules,
        letter ∈ lexer'.letterRules ∨ letter.name = stored.name) :
      Gain reserved lexer mode rule lexer' (some stored)
  /-- The rule is new, and comes last in its mode. -/
  | added {stored : Rule} (hnew : New reserved lexer mode rule stored)
      (hrules : lexer'.rulesIn mode = lexer.rulesIn mode ++ [stored])
      (hframe : ∀ other, other ≠ mode → lexer'.rulesIn other = lexer.rulesIn other)
      (hletters : ∀ letter ∈ lexer.letterRules,
        letter ∈ lexer'.letterRules ∨ letter.name = stored.name)
      (hgone : ∀ letter ∈ lexer'.letterRules, letter.name ≠ stored.name) :
      Gain reserved lexer mode rule lexer' (some stored)

/-! ## The ways to go -/

lemma gain_of_settling (hletters : ∀ letter ∈ lexer.letterRules, letter ∈ allLetterRules)
    {name : String} (htakes : Takes reserved lexer rule name)
    (h : Settling (lexer.addMode mode) mode { rule with name := name } lexer' (.ok result)) :
    Gain reserved lexer mode rule lexer' result := by
  have hletters' : ∀ letter ∈ (lexer.addMode mode).letterRules, letter ∈ allLetterRules := by
    rwa [letterRules_addMode]
  cases result with
  | none =>
      have hself := h.body_eq_of_none hletters'
      rcases h.ordinary_of_none hletters' with ⟨hletter, rfl⟩
      rw [letterRule?, letterRules_addMode] at hletter
      exact .dropped htakes hself hletter (rulesIn_addMode lexer mode)
        (letterRules_addMode lexer mode)
  | some stored =>
      rcases mode?_addMode_self lexer mode with ⟨found, hfound⟩
      rcases h.settled hfound with ⟨hname, hsettled⟩
      have hdropped : ∀ letter ∈ lexer.letterRules,
          letter ∈ lexer'.letterRules ∨ letter.name = stored.name := by
        intro letter hletter
        rw [hname]
        exact h.mem_letterRules (by rwa [letterRules_addMode])
      have hframe := hsettled.frame
      simp only [rulesIn_addMode] at hframe
      cases hsettled.grows with
      | kept hrules hmem =>
          rw [rulesIn_addMode] at hrules hmem
          refine .kept hmem (h.covers hfound) ?_ ?_ ?_ hdropped
          · intro hne
            cases htakes with
            | given _ heq => exact hname.trans heq
            | drawn hempty => exact absurd hempty hne
          · intro hempty
            cases htakes with
            | given hne => exact absurd hempty hne
            | drawn _ _ hfree => exact absurd hname (hfree mode stored hmem)
          · intro other
            by_cases hother : other = mode
            · rw [hother, hrules]
            · exact hframe other hother
      | added hrules hnew hcommands hfragment =>
          rw [rulesIn_addMode] at hrules hnew
          refine .added ⟨by rwa [hname], h.covers hfound, hcommands, hfragment, hnew, ?_, ?_⟩ hrules
            hframe hdropped ?_
          · intro letter hletter hsame
            exact h.body_eq_of_letter hletters' hfound (by rwa [letterRules_addMode])
              (hsame.trans hname)
          · refine hsettled.standsFor.imp_right ?_
            rintro ⟨letter, hletter, -, hbody⟩
            exact ⟨letter, hletters' letter hletter, hbody⟩
          · intro letter hletter
            rw [hname]
            exact h.letter_name_ne hletter

/-- **An addition that goes through** comes to one of these. -/
lemma gain_of_adding (hindexed : ∀ found ∈ lexer.modes, found.WellIndexed)
    (hletters : ∀ letter ∈ lexer.letterRules, letter ∈ allLetterRules)
    (h : Adding lexer mode rule names (some fun names => names.next kind) lexer' names'
      (.ok result)) : Gain names.reserved lexer mode rule lexer' result := by
  cases h with
  | named hname hsettle => exact gain_of_settling hletters (.given hname rfl) hsettle
  | @duplicate found existing hname hmode hstored =>
      have hfound := wellIndexed_addMode hindexed mode found (mem_modes_of_mode? hmode)
      rw [hfound.indexed?_eq] at hstored
      rcases Mode.isRuleFor_iff.mp (List.find?_some hstored) with ⟨hfragment, hbody, -⟩
      have hmem : existing ∈ lexer.rulesIn mode := by
        rw [← rulesIn_addMode lexer mode, rulesIn_of_mode? hmode]
        exact List.mem_of_find?_eq_some hstored
      refine .kept hmem (.inl hbody) (fun hne => absurd hname hne) (fun _ => hfragment)
        (rulesIn_addMode lexer mode) ?_
      intro letter hletter
      rw [letterRules_addMode]
      exact .inl hletter
  | @drawn _ _ draw drawn hname hdraw hdrawn hsettle =>
      cases hdraw
      have hdraws := drawUnused_next names kind (lexer.addMode mode)
      rw [← hdrawn] at hdraws
      refine gain_of_settling hletters ?_ hsettle
      rw [hdraws.generated.ruleName_eq]
      refine .drawn hname hdraws.generated ?_
      intro other existing hexisting
      exact ne_of_ruleNamed?_isSome hdraws.free (by rwa [rulesIn_addMode])

/-- **What an addition to a workspace comes to.** -/
lemma Workspace.Sound.gain {grammar : Model.Grammar} {space space' : Workspace}
    (hsound : space.Sound grammar)
    (h : space.addRule mode rule kind = (space', .ok result)) :
    Gain (reservedNames grammar) space.lexer mode rule space'.lexer result := by
  rw [← hsound.reserved]
  exact gain_of_adding hsound.indexed (fun letter hletter => (hsound.letters letter hletter).2)
    (Workspace.adding_of_addRule h)

/-! ## What is there afterwards -/

/-- **No rule is lost.** -/
lemma Gain.subset (h : Gain reserved lexer mode rule lexer' result) {other : String}
    {existing : Rule} (hexisting : existing ∈ lexer.rulesIn other) :
    existing ∈ lexer'.rulesIn other := by
  cases h with
  | dropped _ _ _ hrules => rwa [hrules]
  | kept _ _ _ _ hrules => rwa [hrules]
  | added _ hrules hframe =>
      by_cases hother : other = mode
      · subst hother
        rw [hrules]
        exact List.mem_append_left _ hexisting
      · rwa [hframe other hother]

/-- **No rule is gained but the new one.** -/
lemma Gain.mem_rulesIn (h : Gain reserved lexer mode rule lexer' result) {other : String}
    {existing : Rule} (hexisting : existing ∈ lexer'.rulesIn other) :
    existing ∈ lexer.rulesIn other ∨ other = mode ∧ New reserved lexer mode rule existing := by
  cases h with
  | dropped _ _ _ hrules => exact .inl (by rwa [← hrules])
  | kept _ _ _ _ hrules => exact .inl (by rwa [← hrules])
  | added hnew hrules hframe =>
      by_cases hother : other = mode
      · subst hother
        rw [hrules, List.mem_append, List.mem_singleton] at hexisting
        rcases hexisting with hbefore | rfl
        · exact .inl hbefore
        · exact .inr ⟨rfl, hnew⟩
      · exact .inl (by rwa [← hframe other hother])

/-- **Other modes are left alone.** -/
lemma Gain.rulesIn_of_ne (h : Gain reserved lexer mode rule lexer' result) {other : String}
    (hother : other ≠ mode) : lexer'.rulesIn other = lexer.rulesIn other := by
  cases h with
  | dropped _ _ _ hrules => exact hrules other
  | kept _ _ _ _ hrules => exact hrules other
  | added _ _ hframe => exact hframe other hother

lemma Gain.mem_stored {stored : Rule} (h : Gain reserved lexer mode rule lexer' (some stored)) :
    stored ∈ lexer'.rulesIn mode ∧ stored.Covers rule.body := by
  cases h with
  | kept hmem hcovers _ _ hrules => exact ⟨by rwa [hrules], hcovers⟩
  | added hnew hrules => exact ⟨by simp [hrules], hnew.covers⟩

/-- The name of the rule that is stored is that of a rule, if one is stored. -/
lemma Gain.exists_named (h : Gain reserved lexer mode rule lexer' result) (given : String) :
    (result.map Rule.name).getD given = given ∨
      ∃ other, ∃ existing ∈ lexer'.rulesIn other,
        existing.name = (result.map Rule.name).getD given := by
  cases result with
  | none => exact .inl rfl
  | some stored => exact .inr ⟨mode, stored, h.mem_stored.1, rfl⟩

/-- **A letter rule only gives way to a rule of its name.** -/
lemma Gain.letters (h : Gain reserved lexer mode rule lexer' result) {letter : Rule}
    (hletter : letter ∈ lexer.letterRules) :
    letter ∈ lexer'.letterRules ∨
      ∃ other, ∃ existing ∈ lexer'.rulesIn other, existing.name = letter.name := by
  cases h with
  | dropped _ _ _ _ hletters => exact .inl (by rwa [hletters])
  | kept hmem _ _ _ hrules hletters =>
      refine (hletters letter hletter).imp_right fun hname => ⟨mode, _, ?_, hname.symm⟩
      rwa [hrules]
  | added _ hrules _ hletters =>
      refine (hletters letter hletter).imp_right fun hname => ⟨mode, _, ?_, hname.symm⟩
      simp [hrules]

/-- **The rules of a mode keep different names.** -/
lemma Gain.nodup_names (h : Gain reserved lexer mode rule lexer' result) {other : String}
    (hnodup : ((lexer.rulesIn other).map Rule.name).Nodup) :
    ((lexer'.rulesIn other).map Rule.name).Nodup := by
  cases h with
  | dropped _ _ _ hrules => rwa [hrules]
  | kept _ _ _ _ hrules => rwa [hrules]
  | added hnew hrules hframe =>
      by_cases hother : other = mode
      · subst hother
        rw [hrules, List.map_append, List.nodup_append]
        refine ⟨hnodup, by simp, ?_⟩
        intro name hname last hlast
        rcases List.mem_map.mp hname with ⟨existing, hexisting, rfl⟩
        rw [List.map_singleton, List.mem_singleton] at hlast
        rw [hlast]
        exact hnew.names existing hexisting
      · rwa [hframe other hother]

end GrammarConversion.Conversion
