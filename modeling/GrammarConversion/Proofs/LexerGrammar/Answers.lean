import GrammarConversion.Proofs.LexerGrammar.Alike

/-!
# Rules that are there already

A request for a rule need not store anything.  A rule with a name may have been stored under it
before, or it only refers to itself; for a rule without a name its mode may have a rule with that
body.  In these cases the grammar `Answers` the request.

* `InOrder.addRule_of_answers`: **a request that has an answer changes nothing,** and it asks for no
  name.
* `InOrder.exists_answers_of_named`: where a rule with a name has been added, there is an answer to
  the same request.  It is not always the same one: the name of a letter stands for the rule of the
  letter the first time, and for itself from then on.
* `Answers.of_grown`: an answer stays the answer, whatever else is added.
-/

namespace GrammarConversion.Antlr

namespace LexerGrammar

variable {lexer lexer' : LexerGrammar} {mode : String} {rule stored : Rule}
  {answer result : Option Rule}

/-- **The answer of a lexer grammar to a request for a rule,** if nothing need be stored for it. -/
inductive Answers (lexer : LexerGrammar) (mode : String) (rule : Rule) : Option Rule → Prop
  /-- The rule only refers to itself. -/
  | selfReferring (hmode : mode ∈ lexer.modes.map Mode.name) (hname : rule.name ≠ "")
      (hletter : lexer.letterRule? (ruleName rule.name) = none)
      (hself : rule.body = .text (ruleName rule.name)) : Answers lexer mode rule none
  /-- The mode has the rule under its name. -/
  | named {stored : Rule} (hname : rule.name ≠ "")
      (hletter : lexer.letterRule? (ruleName rule.name) = none) (hmem : stored ∈ lexer.rulesIn mode)
      (hstored : stored.name = ruleName rule.name) (hsame : stored.body.same rule.body = true) :
      Answers lexer mode rule (some stored)
  /-- The rule has no name, and the mode has a first rule with its body. -/
  | indexed {stored : Rule} (hname : rule.name = "")
      (hfirst : (lexer.rulesIn mode).find? (Mode.isRuleFor rule.body) = some stored) :
      Answers lexer mode rule (some stored)

/-! ## Requests that have an answer -/

lemma mem_modes_of_mem_rulesIn (h : stored ∈ lexer.rulesIn mode) :
    mode ∈ lexer.modes.map Mode.name := by
  rcases mem_mode_of_mem_rulesIn h with ⟨found, hfound, rfl, -⟩
  exact List.mem_map_of_mem hfound

lemma addMode_of_mem (h : mode ∈ lexer.modes.map Mode.name) : lexer.addMode mode = lexer := by
  rcases List.mem_map.mp h with ⟨found, hfound, hname⟩
  rw [addMode, if_pos]
  exact List.any_eq_true.mpr ⟨found, hfound, by simpa using hname⟩

lemma Answers.mem_modes (h : Answers lexer mode rule answer) :
    mode ∈ lexer.modes.map Mode.name := by
  cases h with
  | selfReferring hmode => exact hmode
  | named _ _ hmem => exact mem_modes_of_mem_rulesIn hmem
  | indexed _ hfirst => exact mem_modes_of_mem_rulesIn (List.mem_of_find?_eq_some hfirst)

/-- A rule without a name is not added if the index leads to a rule with its body. -/
lemma addRule_of_indexed {Names : Type} (names : Names) (draw? : Option (Names → String × Names))
    (hname : rule.name = "")
    (hindexed : (((lexer.addMode mode).mode? mode).bind fun found => found.indexed? rule.body)
      = some stored) :
    (lexer.addRule mode rule names draw?).lexer = lexer.addMode mode ∧
      (lexer.addRule mode rule names draw?).names = names ∧
      (lexer.addRule mode rule names draw?).result = .ok (some stored) := by
  unfold addRule
  dsimp only
  rw [if_neg (not_not.mpr hname), hindexed]
  exact ⟨rfl, rfl, rfl⟩

lemma Placing.of_mem {result : Except Failure (Option Rule)}
    (h : Placing lexer mode rule lexer' result) (horder : lexer.InOrder)
    (hmem : stored ∈ lexer.rulesIn mode) (hstored : stored.name = rule.name)
    (hsame : stored.body.same rule.body = true) : lexer' = lexer ∧ result = .ok (some stored) := by
  cases h with
  | dropped hself =>
      rcases mem_mode_of_mem_rulesIn hmem with ⟨found, hfound, -, hin⟩
      refine absurd ?_ ((horder.modes found hfound).body_ne stored hin)
      rw [((Body.same_iff _ _).mp hsame).1, hself, hstored]
  | present _ hexisting hname =>
      rw [horder.eq_of_name hmem hexisting (hname.trans hstored.symm)]
      exact ⟨rfl, rfl⟩
  | conflict _ hexisting hname hdiffers =>
      rw [horder.eq_of_name hmem hexisting (hname.trans hstored.symm), hsame] at hdiffers
      exact Bool.noConfusion hdiffers
  | appended _ hnew => exact absurd hstored (hnew stored hmem)

/-- **A request that has an answer changes nothing,** and the answer is what it comes to. -/
lemma InOrder.addRule_of_answers (horder : lexer.InOrder) (h : Answers lexer mode rule answer)
    {Names : Type} (names : Names) (draw? : Option (Names → String × Names)) :
    (lexer.addRule mode rule names draw?).lexer = lexer ∧
      (lexer.addRule mode rule names draw?).names = names ∧
      (lexer.addRule mode rule names draw?).result = .ok answer := by
  have hmode : lexer.addMode mode = lexer := addMode_of_mem h.mem_modes
  have hadding := addRule_cases lexer mode rule names draw?
  cases h with
  | selfReferring _ hname hletter hself =>
      rcases hadding.settling_of_named hname with ⟨hsettle, hnames⟩
      rw [hmode] at hsettle
      rcases (hsettle.placing hletter).of_selfReferring hself with ⟨hlexer, hresult⟩
      exact ⟨hlexer, hnames, hresult⟩
  | named hname hletter hmem hstored hsame =>
      rcases hadding.settling_of_named hname with ⟨hsettle, hnames⟩
      rw [hmode] at hsettle
      rcases (hsettle.placing hletter).of_mem horder hmem hstored hsame with ⟨hlexer, hresult⟩
      exact ⟨hlexer, hnames, hresult⟩
  | @indexed stored hname hfirst =>
      have hindexed : (((lexer.addMode mode).mode? mode).bind fun found =>
          found.indexed? rule.body) = some stored := by
        rw [hmode, horder.bind_indexed?_eq, hfirst]
      rcases addRule_of_indexed names draw? hname hindexed with ⟨hlexer, hrest⟩
      exact ⟨hlexer.trans hmode, hrest⟩

/-! ## Answers after an addition -/

lemma Placing.answers {request : Rule}
    (h : Placing lexer mode { request with name := ruleName request.name } lexer' (.ok result))
    (hname : request.name ≠ "") (hmode : mode ∈ lexer.modes.map Mode.name)
    (hletter : lexer.letterRule? (ruleName request.name) = none)
    (hbody : request.body.isParserPart = false) : Answers lexer' mode request result := by
  cases h with
  | dropped hself => exact .selfReferring hmode hname hletter hself
  | present _ hmem hstored hsame => exact .named hname hletter hmem hstored hsame
  | appended =>
      refine .named hname hletter ?_ rfl ((Body.same_iff _ _).mpr ⟨rfl, hbody⟩)
      rw [rulesIn_append, if_pos ⟨rfl, hmode⟩]
      simp

lemma letterRule?_eq_none_of_subset {name : String} (h : lexer.letterRule? name = none)
    (hletters : lexer'.letterRules ⊆ lexer.letterRules) : lexer'.letterRule? name = none :=
  letterRule?_eq_none_iff.mpr fun letter hletter =>
    letterRule?_eq_none_iff.mp h letter (hletters hletter)

/-- **A rule with a name that has been settled** is answered with that name from then on. -/
lemma Settling.exists_answers {request : Rule} (horder : lexer.InOrder)
    (h : Settling lexer mode { request with name := ruleName request.name } lexer' (.ok result))
    (hname : request.name ≠ "") (hmode : mode ∈ lexer.modes.map Mode.name)
    (hbody : request.body.isParserPart = false) :
    ∃ answer, Answers lexer' mode request answer ∧
      (answer.map Rule.name).getD (ruleName request.name)
        = (result.map Rule.name).getD (ruleName request.name) := by
  cases h with
  | ordinary hletter hplace => exact ⟨result, hplace.answers hname hmode hletter hbody, rfl⟩
  | @letter _ _ letter hletter hmatches hplace =>
      have hdropped := letterRule?_dropLetter_self lexer (ruleName request.name)
      rcases hmatches with hself | hsame
      · have hletter' : lexer'.letterRule? (ruleName request.name) = none := by
          rw [letterRule?, hplace.letterRules_eq]
          exact hdropped
        have hmode' : mode ∈ lexer'.modes.map Mode.name := by
          rw [hplace.extends_modes.map_name_eq]
          exact hmode
        refine ⟨none, .selfReferring hmode' hname hletter' hself, ?_⟩
        cases hplace with
        | dropped hbodyname =>
            rcases of_letterRule?_eq_some hletter with ⟨hmem, hlettername⟩
            refine absurd ?_ (letter_body_ne letter (horder.letters.subset hmem))
            rw [hlettername]
            exact hbodyname
        | present _ _ hexisting => exact hexisting.symm
        | appended => rfl
      · have hrequest : { request with name := ruleName request.name, body := letter.body }
            = { request with name := ruleName request.name } := by rw [← hsame]
        rw [hrequest] at hplace
        exact ⟨result, hplace.answers hname hmode hdropped hbody, rfl⟩

/-- **A rule with a name that has been added** is answered with that name from then on. -/
lemma InOrder.exists_answers_of_named (horder : lexer.InOrder) {Names : Type} {names : Names}
    {draw? : Option (Names → String × Names)} (hname : rule.name ≠ "")
    (hbody : rule.body.isParserPart = false)
    (hadded : (lexer.addRule mode rule names draw?).result = .ok result) :
    ∃ answer, Answers (lexer.addRule mode rule names draw?).lexer mode rule answer ∧
      (answer.map Rule.name).getD (ruleName rule.name)
        = (result.map Rule.name).getD (ruleName rule.name) := by
  have hsettle := ((addRule_cases lexer mode rule names draw?).settling_of_named hname).1
  rw [hadded] at hsettle
  exact hsettle.exists_answers (horder.addMode mode) hname (mem_modes_addMode.mpr (.inr rfl)) hbody

/-- **A rule without a name that its mode has no rule for** is settled under a name that is
drawn. -/
lemma Adding.settling_of_unnamed {Names : Type} {names names' : Names}
    {draw? : Option (Names → String × Names)}
    (h : Adding lexer mode rule names draw? lexer' names' (.ok result)) (horder : lexer.InOrder)
    (hname : rule.name = "")
    (hnone : (lexer.rulesIn mode).find? (Mode.isRuleFor rule.body) = none) :
    ∃ draw, draw? = some draw ∧ Settling (lexer.addMode mode) mode
      { rule with name := ruleName (drawUnused draw
          (fun name => ((lexer.addMode mode).ruleNamed? name).isSome)
          (lexer.addMode mode).rules.length names).1 } lexer' (.ok result) := by
  cases h with
  | named hne => exact absurd hname hne
  | duplicate _ hmode hindexed =>
      have hfound := (horder.addMode mode).bind_indexed?_eq mode rule.body
      rw [hmode, Option.bind_some, hindexed, rulesIn_addMode, hnone] at hfound
      cases hfound
  | @drawn _ _ draw drawn _ hdraw hdrawn hsettle =>
      subst hdrawn
      exact ⟨draw, hdraw, hsettle⟩

/-! ## Answers stay -/

/-- **What additions do to a lexer grammar:** letter rules are dropped, rules are added at the end
of modes, and modes at the end of all modes. -/
structure Grown (lexer lexer' : LexerGrammar) : Prop where
  letters : lexer'.letterRules.Sublist lexer.letterRules
  rules : ∀ mode, lexer.rulesIn mode <+: lexer'.rulesIn mode
  modes : lexer.modes.map Mode.name <+: lexer'.modes.map Mode.name

lemma Grown.refl (lexer : LexerGrammar) : Grown lexer lexer :=
  ⟨List.Sublist.refl _, fun _ => List.prefix_refl _, List.prefix_refl _⟩

lemma Grown.trans {first second third : LexerGrammar} (h : Grown first second)
    (h' : Grown second third) : Grown first third :=
  ⟨h'.letters.trans h.letters, fun mode => (h.rules mode).trans (h'.rules mode),
    h.modes.trans h'.modes⟩

lemma grown_addMode (lexer : LexerGrammar) (name : String) : Grown lexer (lexer.addMode name) := by
  refine ⟨(keeps_addMode lexer name).letters, fun mode => ?_, (keepsShape_addMode lexer name).names⟩
  simp only [rulesIn_addMode, List.prefix_refl]

lemma grown_addRule {Names : Type} (lexer : LexerGrammar) (mode : String) (rule : Rule)
    (names : Names) (draw? : Option (Names → String × Names)) :
    Grown lexer (lexer.addRule mode rule names draw?).lexer := by
  have hadding := addRule_cases lexer mode rule names draw?
  exact ⟨hadding.keeps.letters, rulesIn_run_grow (.addRule mode rule names draw?) lexer,
    hadding.keepsShape.names⟩

/-- **An answer stays the answer,** whatever is added. -/
lemma Answers.of_grown (h : Answers lexer mode rule answer) (hgrown : Grown lexer lexer') :
    Answers lexer' mode rule answer := by
  cases h with
  | selfReferring hmode hname hletter hself =>
      exact .selfReferring (hgrown.modes.subset hmode) hname
        (letterRule?_eq_none_of_subset hletter hgrown.letters.subset) hself
  | named hname hletter hmem hstored hsame =>
      exact .named hname (letterRule?_eq_none_of_subset hletter hgrown.letters.subset)
        ((hgrown.rules mode).subset hmem) hstored hsame
  | indexed hname hfirst =>
      rcases hgrown.rules mode with ⟨added, hrules⟩
      refine .indexed hname ?_
      rw [← hrules, List.find?_append, hfirst, Option.some_or]

end LexerGrammar

end GrammarConversion.Antlr
