import GrammarConversion.Proofs.LexerGrammar.Modes
import GrammarConversion.Proofs.Name

/-!
# What adding a rule can come to

Each step of an addition has a few ways to go, and they are listed once: `Placing` for a rule that
has its final name and body, `Settling` for one that may have the name of a letter, `Adding` for one
that may have no name at all.  Failures are among them.

Most properties of a lexer grammar only ask what a successful addition stores.  `Settled` says so:
the stored rule is in its mode, either from before or as a new rule at the end, no other mode has
changed, and the body is the one that was asked for, or that of a letter rule in the place of the
letter's name (`StandsFor`).
-/

namespace GrammarConversion.Antlr

namespace LexerGrammar

variable {lexer lexer' : LexerGrammar} {mode : String} {rule : Rule}
  {result : Except Failure (Option Rule)}

/-! ## The ways to go -/

/-- **What placing a rule can come to.** -/
inductive Placing (lexer : LexerGrammar) (mode : String) (rule : Rule) :
    LexerGrammar → Except Failure (Option Rule) → Prop
  /-- The rule only refers to itself. -/
  | dropped (hself : rule.body = .text rule.name) : Placing lexer mode rule lexer (.ok none)
  /-- The mode has a rule of that name and body. -/
  | present {existing : Rule} (hself : rule.body ≠ .text rule.name)
      (hmem : existing ∈ lexer.rulesIn mode) (hname : existing.name = rule.name)
      (hsame : existing.body.same rule.body = true) :
      Placing lexer mode rule lexer (.ok (some existing))
  /-- The mode has a rule of that name with another body. -/
  | conflict {existing : Rule} (hself : rule.body ≠ .text rule.name)
      (hmem : existing ∈ lexer.rulesIn mode) (hname : existing.name = rule.name)
      (hdiffers : existing.body.same rule.body = false) :
      Placing lexer mode rule lexer (.error (.conversion
        (.namingConflict rule.name rule.body.content? existing.body.content?)))
  /-- The rule is new. -/
  | appended (hself : rule.body ≠ .text rule.name)
      (hnew : ∀ other ∈ lexer.rulesIn mode, other.name ≠ rule.name) :
      Placing lexer mode rule (lexer.append mode rule) (.ok (some rule))

/-- **What settling a rule can come to.** -/
inductive Settling (lexer : LexerGrammar) (mode : String) (rule : Rule) :
    LexerGrammar → Except Failure (Option Rule) → Prop
  /-- No letter rule has the name. -/
  | ordinary {lexer' : LexerGrammar} {result : Except Failure (Option Rule)}
      (hletter : lexer.letterRule? rule.name = none)
      (hplace : Placing lexer mode rule lexer' result) : Settling lexer mode rule lexer' result
  /-- The rule takes the place of a letter rule. -/
  | letter {lexer' : LexerGrammar} {result : Except Failure (Option Rule)} {letter : Rule}
      (hletter : lexer.letterRule? rule.name = some letter)
      (hbody : rule.body = .text rule.name ∨ rule.body = letter.body)
      (hplace : Placing (lexer.dropLetter rule.name) mode { rule with body := letter.body }
        lexer' result) : Settling lexer mode rule lexer' result
  /-- The rule has the name of a letter but does not match it. -/
  | refused {letter : Rule} (hletter : lexer.letterRule? rule.name = some letter)
      (hbody : ¬(rule.body = .text rule.name ∨ rule.body = letter.body)) :
      Settling lexer mode rule lexer
        (.error (.conversion (.namingConflict rule.name rule.body.content? none)))

/-- **What adding a rule can come to.** -/
inductive Adding {Names : Type} (lexer : LexerGrammar) (mode : String) (rule : Rule)
    (names : Names) (draw? : Option (Names → String × Names)) :
    LexerGrammar → Names → Except Failure (Option Rule) → Prop
  /-- The rule has a name. -/
  | named {lexer' : LexerGrammar} {result : Except Failure (Option Rule)} (hname : rule.name ≠ "")
      (hsettle : Settling (lexer.addMode mode) mode { rule with name := ruleName rule.name }
        lexer' result) : Adding lexer mode rule names draw? lexer' names result
  /-- The rule has no name, and the mode has a rule for its body. -/
  | duplicate {found : Mode} {existing : Rule} (hname : rule.name = "")
      (hmode : (lexer.addMode mode).mode? mode = some found)
      (hindexed : found.indexed? rule.body = some existing) :
      Adding lexer mode rule names draw? (lexer.addMode mode) names (.ok (some existing))
  /-- The rule has no name, and there is none to give. -/
  | unnamed (hname : rule.name = "") (hdraw : draw? = none) :
      Adding lexer mode rule names draw? (lexer.addMode mode) names
        (.error (.unnamedRule rule.body.shown))
  /-- The rule gets a name that no rule has. -/
  | drawn {lexer' : LexerGrammar} {result : Except Failure (Option Rule)}
      {draw : Names → String × Names} {drawn : String × Names} (hname : rule.name = "")
      (hdraw : draw? = some draw)
      (hdrawn : drawn = drawUnused draw
        (fun name => ((lexer.addMode mode).ruleNamed? name).isSome)
        (lexer.addMode mode).rules.length names)
      (hsettle : Settling (lexer.addMode mode) mode { rule with name := ruleName drawn.1 }
        lexer' result) : Adding lexer mode rule names draw? lexer' drawn.2 result

lemma of_named?_eq_some {existing : Rule} {name : String}
    (h : ((lexer.mode? mode).bind fun found => found.named? name) = some existing) :
    existing ∈ lexer.rulesIn mode ∧ existing.name = name := by
  rcases Option.bind_eq_some_iff.mp h with ⟨found, hfound, hnamed⟩
  rw [Mode.named?] at hnamed
  rw [rulesIn_of_mode? hfound]
  exact ⟨List.mem_of_find?_eq_some hnamed, by simpa using List.find?_some hnamed⟩

lemma of_named?_eq_none {name : String}
    (h : ((lexer.mode? mode).bind fun found => found.named? name) = none) :
    ∀ other ∈ lexer.rulesIn mode, other.name ≠ name := by
  intro other hother hname
  rw [rulesIn] at hother
  split at hother
  · rename_i found hfound
    rw [hfound, Option.bind_some, Mode.named?, List.find?_eq_none] at h
    exact h other hother (by simp [hname])
  · simp at hother

lemma of_letterRule?_eq_some {letter : Rule} {name : String}
    (h : lexer.letterRule? name = some letter) :
    letter ∈ lexer.letterRules ∧ letter.name = name := by
  rw [letterRule?] at h
  exact ⟨List.mem_of_find?_eq_some h, by simpa using List.find?_some h⟩

lemma letterRule?_eq_none_iff {name : String} :
    lexer.letterRule? name = none ↔ ∀ letter ∈ lexer.letterRules, letter.name ≠ name := by
  rw [letterRule?, List.find?_eq_none]
  simp only [beq_iff_eq, ne_eq]

lemma mem_letterRules_dropLetter {letter : Rule} {name : String} :
    letter ∈ (lexer.dropLetter name).letterRules
      ↔ letter ∈ lexer.letterRules ∧ letter.name ≠ name := by
  rw [dropLetter, List.mem_filter, bne_iff_ne]

lemma letterRule?_dropLetter_self (lexer : LexerGrammar) (name : String) :
    (lexer.dropLetter name).letterRule? name = none :=
  letterRule?_eq_none_iff.mpr fun _ hletter => (mem_letterRules_dropLetter.mp hletter).2

lemma place_cases (lexer : LexerGrammar) (mode : String) (rule : Rule) :
    Placing lexer mode rule (lexer.place mode rule).lexer (lexer.place mode rule).result := by
  unfold place
  split
  · exact .dropped ‹_›
  · rename_i hself
    split
    · rename_i existing hexisting
      rcases of_named?_eq_some hexisting with ⟨hmem, hname⟩
      split
      · exact .present hself hmem hname ‹_›
      · exact .conflict hself hmem hname (by simpa using ‹¬existing.body.same rule.body = true›)
    · exact .appended hself (of_named?_eq_none ‹_›)

lemma settle_cases (lexer : LexerGrammar) (mode : String) (rule : Rule) :
    Settling lexer mode rule (lexer.settle mode rule).lexer (lexer.settle mode rule).result := by
  unfold settle
  split
  · exact .ordinary ‹_› (place_cases lexer mode rule)
  · rename_i letter hletter
    split
    · exact .letter hletter ‹_› (place_cases _ mode _)
    · exact .refused hletter ‹_›

lemma addRule_cases {Names : Type} (lexer : LexerGrammar) (mode : String) (rule : Rule)
    (names : Names) (draw? : Option (Names → String × Names)) :
    Adding lexer mode rule names draw? (lexer.addRule mode rule names draw?).lexer
      (lexer.addRule mode rule names draw?).names (lexer.addRule mode rule names draw?).result := by
  unfold addRule
  dsimp only
  split
  · exact .named ‹_› (settle_cases _ mode _)
  · rename_i hname
    have hempty : rule.name = "" := by simpa using hname
    split
    · rename_i existing hexisting
      rcases Option.bind_eq_some_iff.mp hexisting with ⟨found, hmode, hindexed⟩
      exact .duplicate hempty hmode hindexed
    · cases draw? with
      | none => exact .unnamed hempty rfl
      | some draw => exact .drawn hempty rfl rfl (settle_cases _ mode _)

/-- **A rule that has a name** is settled under it, and no name is drawn. -/
lemma Adding.settling_of_named {Names : Type} {names names' : Names}
    {draw? : Option (Names → String × Names)}
    (h : Adding lexer mode rule names draw? lexer' names' result) (hname : rule.name ≠ "") :
    Settling (lexer.addMode mode) mode { rule with name := ruleName rule.name } lexer' result ∧
      names' = names := by
  cases h with
  | named _ hsettle => exact ⟨hsettle, rfl⟩
  | duplicate hempty => exact absurd hempty hname
  | unnamed hempty => exact absurd hempty hname
  | drawn hempty => exact absurd hempty hname

/-- **A rule whose name is not that of a letter rule** is only placed. -/
lemma Settling.placing (h : Settling lexer mode rule lexer' result)
    (hletter : lexer.letterRule? rule.name = none) : Placing lexer mode rule lexer' result := by
  cases h with
  | ordinary _ hplace => exact hplace
  | letter hsome => cases hletter.symm.trans hsome
  | refused hsome => cases hletter.symm.trans hsome

/-! ## What no addition changes -/

/-- **Letter rules are only ever dropped, and indices stay right,** also where an addition fails. -/
structure Keeps (lexer lexer' : LexerGrammar) : Prop where
  letters : lexer'.letterRules.Sublist lexer.letterRules
  indexed : (∀ mode ∈ lexer.modes, mode.WellIndexed) → ∀ mode ∈ lexer'.modes, mode.WellIndexed

lemma Keeps.refl (lexer : LexerGrammar) : Keeps lexer lexer :=
  ⟨List.Sublist.refl _, fun h => h⟩

lemma Keeps.trans {first second third : LexerGrammar} (h : Keeps first second)
    (h' : Keeps second third) : Keeps first third :=
  ⟨h'.letters.trans h.letters, fun hindexed => h'.indexed (h.indexed hindexed)⟩

lemma keeps_addMode (lexer : LexerGrammar) (name : String) : Keeps lexer (lexer.addMode name) := by
  refine ⟨?_, fun h => wellIndexed_addMode h name⟩
  simp only [letterRules_addMode, List.Sublist.refl]

lemma keeps_dropLetter (lexer : LexerGrammar) (name : String) :
    Keeps lexer (lexer.dropLetter name) :=
  ⟨List.filter_sublist, fun h => h⟩

lemma Placing.keeps (h : Placing lexer mode rule lexer' result) : Keeps lexer lexer' := by
  cases h with
  | appended => exact ⟨List.Sublist.refl _, fun h => wellIndexed_append h mode rule⟩
  | _ => exact Keeps.refl lexer

lemma Settling.keeps (h : Settling lexer mode rule lexer' result) : Keeps lexer lexer' := by
  cases h with
  | ordinary _ hplace => exact hplace.keeps
  | letter _ _ hplace => exact (keeps_dropLetter lexer rule.name).trans hplace.keeps
  | refused => exact Keeps.refl lexer

lemma Adding.keeps {Names : Type} {names names' : Names}
    {draw? : Option (Names → String × Names)}
    (h : Adding lexer mode rule names draw? lexer' names' result) : Keeps lexer lexer' := by
  cases h with
  | named _ hsettle => exact (keeps_addMode lexer mode).trans hsettle.keeps
  | drawn _ _ _ hsettle => exact (keeps_addMode lexer mode).trans hsettle.keeps
  | _ => exact keeps_addMode lexer mode

/-! ## What a successful addition stores -/

/-- **A body stands for another one** if it is the same, or if the other one is the name of a letter
and it is the body of the rule for that letter. -/
def StandsFor (lexer : LexerGrammar) (wanted stored : Body) : Prop :=
  stored = wanted ∨ ∃ letter ∈ lexer.letterRules, wanted = .text letter.name ∧ stored = letter.body

/-- **The rules of a mode grow by a stored rule** if it is not there already. -/
inductive Grows (rule stored : Rule) (rules rules' : List Rule) : Prop
  | kept (hrules : rules' = rules) (hmem : stored ∈ rules)
  | added (hrules : rules' = rules ++ [stored])
      (hnew : ∀ other ∈ rules, other.name ≠ stored.name)
      (hcommands : stored.commands = rule.commands)
      (hfragment : stored.isFragment = rule.isFragment)

lemma Grows.mem {stored : Rule} {rules rules' : List Rule} (h : Grows rule stored rules rules') :
    stored ∈ rules' := by
  cases h with
  | kept hrules hmem => rwa [hrules]
  | added hrules => simp [hrules]

lemma Grows.isPrefix {stored : Rule} {rules rules' : List Rule}
    (h : Grows rule stored rules rules') : rules <+: rules' := by
  cases h with
  | kept hrules _ => exact ⟨[], by rw [List.append_nil, hrules]⟩
  | added hrules =>
      rw [hrules]
      exact List.prefix_append _ _

/-- The rules of the mode that were not there before are the stored one. -/
lemma Grows.mem_or_eq {stored other : Rule} {rules rules' : List Rule}
    (h : Grows rule stored rules rules') (hother : other ∈ rules') :
    other ∈ rules ∨ other = stored ∧ stored.isFragment = rule.isFragment := by
  cases h with
  | kept hrules _ =>
      rw [hrules] at hother
      exact .inl hother
  | added hrules _ _ hfragment =>
      rw [hrules, List.mem_append, List.mem_singleton] at hother
      exact hother.imp id fun heq => ⟨heq, hfragment⟩

lemma Grows.eq_of_name {stored other : Rule} {rules rules' : List Rule}
    (h : Grows rule stored rules rules') (hother : other ∈ rules)
    (hname : other.name = stored.name) : rules' = rules := by
  cases h with
  | kept hrules _ => exact hrules
  | added _ hnew => exact absurd hname (hnew other hother)

/-- Only the commands of the rule that was asked for matter, and whether it is a fragment. -/
lemma Grows.of_rule {rule' stored : Rule} {rules rules' : List Rule}
    (h : Grows rule stored rules rules') (hcommands : rule.commands = rule'.commands)
    (hfragment : rule.isFragment = rule'.isFragment) : Grows rule' stored rules rules' := by
  cases h with
  | kept hrules hmem => exact .kept hrules hmem
  | added hrules hnew hcommands' hfragment' =>
      exact .added hrules hnew (hcommands'.trans hcommands) (hfragment'.trans hfragment)

/-- **What a successful addition stores.** -/
structure Settled (lexer : LexerGrammar) (mode : String) (rule : Rule) (lexer' : LexerGrammar)
    (stored : Rule) : Prop where
  standsFor : StandsFor lexer rule.body stored.body
  frame : ∀ other, other ≠ mode → lexer'.rulesIn other = lexer.rulesIn other
  grows : Grows rule stored (lexer.rulesIn mode) (lexer'.rulesIn mode)

lemma Placing.eq_of_none (h : Placing lexer mode rule lexer' (.ok none)) : lexer' = lexer := by
  cases h with
  | dropped => rfl

/-- A rule that would only refer to itself is dropped. -/
lemma Placing.of_selfReferring {result : Except Failure (Option Rule)}
    (h : Placing lexer mode rule lexer' result) (hself : rule.body = .text rule.name) :
    lexer' = lexer ∧ result = .ok none := by
  cases h with
  | dropped => exact ⟨rfl, rfl⟩
  | present hne => exact absurd hself hne
  | conflict hne => exact absurd hself hne
  | appended hne => exact absurd hself hne

lemma Placing.settled {stored : Rule} (h : Placing lexer mode rule lexer' (.ok (some stored)))
    {found : Mode} (hmode : lexer.mode? mode = some found) :
    stored.name = rule.name ∧ stored.body = rule.body ∧
      Settled lexer mode rule lexer' stored := by
  cases h with
  | present hself hmem hname hsame =>
      have hbody : stored.body = rule.body := ((Body.same_iff _ _).mp hsame).1
      exact ⟨hname, hbody, .inl hbody, fun other _ => rfl, .kept rfl hmem⟩
  | appended hself hnew =>
      exact ⟨rfl, rfl, .inl rfl, fun other hother => rulesIn_append_of_ne lexer hother rule,
        .added (rulesIn_append_self hmode rule) hnew rfl rfl⟩

lemma Settling.rulesIn_eq_of_none (h : Settling lexer mode rule lexer' (.ok none))
    (other : String) : lexer'.rulesIn other = lexer.rulesIn other := by
  cases h with
  | ordinary _ hplace => rw [hplace.eq_of_none]
  | letter _ _ hplace => rw [hplace.eq_of_none, rulesIn_dropLetter]

lemma Settling.settled {stored : Rule} (h : Settling lexer mode rule lexer' (.ok (some stored)))
    {found : Mode} (hmode : lexer.mode? mode = some found) :
    stored.name = rule.name ∧ Settled lexer mode rule lexer' stored := by
  cases h with
  | ordinary _ hplace =>
      rcases hplace.settled hmode with ⟨hname, -, hsettled⟩
      exact ⟨hname, hsettled⟩
  | @letter _ _ letter hletter hbody hplace =>
      rcases of_letterRule?_eq_some hletter with ⟨hmem, hlettername⟩
      rcases hplace.settled hmode with ⟨hname, hstored, hsettled⟩
      refine ⟨hname, ?_, hsettled.frame, hsettled.grows.of_rule rfl rfl⟩
      rcases hbody with hbody | hbody
      · exact .inr ⟨letter, hmem, by rw [hbody, hlettername], hstored⟩
      · exact .inl (hstored.trans hbody.symm)

/-! ## Rules that are dropped -/

/-- **Only a rule that refers to itself is dropped.** -/
lemma Settling.body_eq_of_none (hletters : ∀ letter ∈ lexer.letterRules, letter ∈ allLetterRules)
    (h : Settling lexer mode rule lexer' (.ok none)) : rule.body = .text rule.name := by
  cases h with
  | ordinary _ hplace =>
      cases hplace with
      | dropped hself => exact hself
  | @letter _ _ letter hletter _ hplace =>
      rcases of_letterRule?_eq_some hletter with ⟨hmem, hname⟩
      cases hplace with
      | dropped hself =>
          rw [← hname] at hself
          exact absurd hself (letter_body_ne letter (hletters letter hmem))

lemma Adding.body_eq_of_none {Names : Type} {names names' : Names}
    {draw? : Option (Names → String × Names)}
    (hletters : ∀ letter ∈ lexer.letterRules, letter ∈ allLetterRules) (hname : rule.name ≠ "")
    (h : Adding lexer mode rule names draw? lexer' names' (.ok none)) :
    rule.body = .text (ruleName rule.name) :=
  (h.settling_of_named hname).1.body_eq_of_none (by rwa [letterRules_addMode])

end LexerGrammar

end GrammarConversion.Antlr
