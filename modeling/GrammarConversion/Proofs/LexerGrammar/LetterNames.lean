import Mathlib.Data.Fintype.EquivFin
import GrammarConversion.Proofs.LexerGrammar.Conflicts

/-!
# The names of letters

Where letter rules have been enabled, bodies refer to letters by name, so a rule with the name of a
letter ought to match the letter in either case.  A rule that does not is rejected as long as the
letter rule is left.  When a rule of some mode has taken its place, that mode goes on rejecting all
others of the name, but nothing is left that a rule for another mode could be compared with.

* `ServesLetters.run`: **each letter keeps a rule,** its letter rule or one in the place of it.
* `InOrder.isConflict_iff`: when a rule with the name of a letter comes to a conflict.
* `protects_built_iff`: **all modes protect the name of a letter exactly as long as no rule has
  it;** afterwards the mode does that has the rule in the place of the letter rule.
-/

namespace GrammarConversion.Antlr

namespace LexerGrammar

variable {lexer lexer' : LexerGrammar} {mode : String} {rule letter stored : Rule}
  {result : Except Failure (Option Rule)}

/-- **Whether a mode protects the name of a letter:** each rule of that name which is neither the
letter's name nor the set of both its cases comes to a conflict there. -/
def Protects (lexer : LexerGrammar) (mode : String) (letter : Rule) : Prop :=
  ∀ {Names : Type} (rule : Rule) (names : Names) (draw? : Option (Names → String × Names)),
    rule.name = letter.name → rule.body ≠ .text letter.name → rule.body ≠ letter.body →
      IsConflict (lexer.addRule mode rule names draw?).result

/-! ## Rules with the name of a letter -/

lemma Placing.isConflict_iff (h : Placing lexer mode rule lexer' result) (horder : lexer.InOrder)
    (hself : rule.body ≠ .text rule.name) :
    IsConflict result ↔ ∃ stored ∈ lexer.rulesIn mode,
      stored.name = rule.name ∧ stored.body.same rule.body = false := by
  cases h with
  | dropped heq => exact absurd heq hself
  | @present existing _ hmem hname hsame =>
      refine iff_of_false (not_isConflict_ok _) ?_
      rintro ⟨other, hother, hothername, hdiffers⟩
      rw [horder.eq_of_name hmem hother (hothername.trans hname.symm), hsame] at hdiffers
      exact Bool.noConfusion hdiffers
  | @conflict existing _ hmem hname hdiffers =>
      exact iff_of_true ⟨_, _, _, rfl⟩ ⟨existing, hmem, hname, hdiffers⟩
  | appended _ hnew =>
      refine iff_of_false (not_isConflict_ok _) ?_
      rintro ⟨other, hother, hothername, -⟩
      exact hnew other hother hothername

lemma Settling.isConflict_iff (h : Settling lexer mode rule lexer' result) (horder : lexer.InOrder)
    (hletter : letter ∈ allLetterRules) (hname : letter.name = rule.name)
    (hself : rule.body ≠ .text rule.name) (hbody : rule.body ≠ letter.body) :
    IsConflict result ↔ letter ∈ lexer.letterRules ∨ ∃ stored ∈ lexer.rulesIn mode,
      stored.name = rule.name ∧ stored.body.same rule.body = false := by
  cases h with
  | ordinary hnone hplace =>
      have hgone : letter ∉ lexer.letterRules := by
        intro hmem
        rw [← hname, horder.letterRule?_eq hmem] at hnone
        exact Option.some_ne_none letter hnone
      rw [hplace.isConflict_iff horder hself, or_iff_right hgone]
  | letter hsome hmatches =>
      obtain rfl := horder.letter_eq hletter hname hsome
      exact absurd hmatches (not_or.mpr ⟨hself, hbody⟩)
  | refused hsome =>
      obtain rfl := horder.letter_eq hletter hname hsome
      exact iff_of_true ⟨_, _, _, rfl⟩ (.inl (of_letterRule?_eq_some hsome).1)

/-- **A rule that does not match the letter whose name it has** comes to a conflict exactly if the
letter rule is left, or the mode has a rule of that name with another body. -/
lemma InOrder.isConflict_iff (h : lexer.InOrder) (hletter : letter ∈ allLetterRules)
    (hname : rule.name = letter.name) (hself : rule.body ≠ .text letter.name)
    (hbody : rule.body ≠ letter.body) {Names : Type} (names : Names)
    (draw? : Option (Names → String × Names)) :
    IsConflict (lexer.addRule mode rule names draw?).result ↔ letter ∈ lexer.letterRules ∨
      ∃ stored ∈ lexer.rulesIn mode,
        stored.name = letter.name ∧ stored.body.same rule.body = false := by
  have hempty : rule.name ≠ "" := hname ▸ letter_name_ne_empty letter hletter
  have hsettle := ((addRule_cases lexer mode rule names draw?).settling_of_named hempty).1
  have hrulename : ruleName rule.name = letter.name := by rw [hname, ruleName_letter letter hletter]
  rw [hrulename] at hsettle
  rw [hsettle.isConflict_iff (h.addMode mode) hletter rfl hself hbody, letterRules_addMode,
    rulesIn_addMode]

/-- A mode with a rule that matches the letter protects its name. -/
lemma InOrder.protects_of_mem (h : lexer.InOrder) (hletter : letter ∈ allLetterRules)
    (hstored : stored ∈ lexer.rulesIn mode) (hname : stored.name = letter.name)
    (hbody : stored.body = letter.body) : lexer.Protects mode letter := by
  intro Names rule names draw? hrulename hself hdiffers
  refine (h.isConflict_iff hletter hrulename hself hdiffers names draw?).mpr (.inr ?_)
  refine ⟨stored, hstored, hname, ?_⟩
  rw [← Bool.not_eq_true, Body.same_iff, hbody]
  exact fun hsame => hdiffers hsame.1.symm

lemma empty_ne_letter : ∀ letter ∈ allLetterRules,
    (.text "" : Body) ≠ .text letter.name ∧ (.text "" : Body) ≠ letter.body := by
  decide

/-- **All modes protect the name of a letter exactly if the letter rule is left:** otherwise a mode
that is new does not. -/
lemma InOrder.forall_protects_iff (h : lexer.InOrder) (hletter : letter ∈ allLetterRules) :
    (∀ mode, lexer.Protects mode letter) ↔ letter ∈ lexer.letterRules := by
  constructor
  · intro hall
    obtain ⟨mode, hmode⟩ := Infinite.exists_notMem_finset (lexer.modes.map Mode.name).toFinset
    rw [List.mem_toFinset] at hmode
    rcases empty_ne_letter letter hletter with ⟨hself, hbody⟩
    have hname : ({ name := letter.name, body := .text "" } : Rule).name = letter.name := rfl
    have hconflict := hall mode _ () none hname hself hbody
    refine ((h.isConflict_iff hletter hname hself hbody () none).mp hconflict).resolve_right ?_
    rintro ⟨stored, hstored, -⟩
    rcases mem_mode_of_mem_rulesIn hstored with ⟨found, hfound, rfl, -⟩
    exact hmode (List.mem_map_of_mem hfound)
  · intro hleft mode Names rule names draw? hname hself hbody
    exact (h.isConflict_iff hletter hname hself hbody names draw?).mpr (.inl hleft)

/-! ## A rule for each letter -/

/-- **Whether each letter has a rule:** its letter rule, or a rule of a mode with its name and
body. -/
def ServesLetters (lexer : LexerGrammar) : Prop :=
  ∀ letter ∈ allLetterRules, letter ∈ lexer.letterRules ∨
    ∃ mode, ∃ stored ∈ lexer.rulesIn mode, stored.name = letter.name ∧ stored.body = letter.body

/-- **A letter rule only gives way to a rule in its place,** if no rule has had its name. -/
lemma Settling.serves (h : Settling lexer mode rule lexer' result) (hapart : lexer.LettersApart)
    (horder : lexer.InOrder) (hmode : mode ∈ lexer.modes.map Mode.name)
    (hletter : letter ∈ lexer.letterRules) :
    letter ∈ lexer'.letterRules ∨ ∃ stored ∈ lexer'.rulesIn mode,
      stored.name = letter.name ∧ stored.body = letter.body := by
  have hknown : letter ∈ allLetterRules := horder.letters.subset hletter
  rcases h.mem_letterRules hletter with hleft | hname
  · exact .inl hleft
  have hfound := horder.letterRule?_eq hletter
  rw [hname] at hfound
  have hnew : ∀ other ∈ lexer.rulesIn mode, other.name ≠ rule.name := fun other hother =>
    hname ▸ hapart letter hletter other (mem_rules_of_mem_rulesIn hother)
  cases h with
  | ordinary hnone => exact absurd (hfound.symm.trans hnone) (Option.some_ne_none letter)
  | @letter _ _ found hsome _ hplace =>
      have hsame : found = letter := horder.letter_eq hknown hname hsome
      rw [hsame] at hplace
      cases hplace with
      | dropped hself => exact absurd (hname ▸ hself) (letter_body_ne letter hknown)
      | present _ hmem hothername => exact absurd hothername (hnew _ hmem)
      | conflict _ hmem hothername => exact absurd hothername (hnew _ hmem)
      | appended =>
          refine .inr ⟨{ rule with body := letter.body }, ?_, hname.symm, rfl⟩
          rw [rulesIn_append, if_pos ⟨rfl, hmode⟩]
          simp
  | refused => exact .inl hletter

/-- **An addition that a letter rule gives way to** stores a rule in the place of it. -/
lemma Adding.serves {Names : Type} {names names' : Names}
    {draw? : Option (Names → String × Names)}
    (h : Adding lexer mode rule names draw? lexer' names' result) (hapart : lexer.LettersApart)
    (horder : lexer.InOrder) (hletter : letter ∈ lexer.letterRules) :
    letter ∈ lexer'.letterRules ∨ ∃ stored ∈ lexer'.rulesIn mode,
      stored.name = letter.name ∧ stored.body = letter.body := by
  have hletter' : letter ∈ (lexer.addMode mode).letterRules := by rwa [letterRules_addMode]
  have hmode : mode ∈ (lexer.addMode mode).modes.map Mode.name := mem_modes_addMode.mpr (.inr rfl)
  cases h with
  | named _ hsettle =>
      exact hsettle.serves (hapart.addMode mode) (horder.addMode mode) hmode hletter'
  | drawn _ _ _ hsettle =>
      exact hsettle.serves (hapart.addMode mode) (horder.addMode mode) hmode hletter'
  | _ => exact .inl hletter'

/-- **Each letter keeps a rule,** whatever is called. -/
lemma ServesLetters.run (h : lexer.ServesLetters) (horder : lexer.InOrder)
    (hapart : lexer.LettersApart) (hcase : lexer.caseInsensitive = true) (call : Call) :
    (call.run lexer).ServesLetters := by
  intro letter hknown
  rcases h letter hknown with hleft | ⟨mode, stored, hstored, hmatches⟩
  · cases call with
    | addMode name =>
        left
        show letter ∈ (lexer.addMode name).letterRules
        rwa [letterRules_addMode]
    | enableLetters =>
        left
        show letter ∈ lexer.enableLetters.letterRules
        rwa [LexerGrammar.enableLetters, if_pos hcase]
    | addRule mode rule names draw? =>
        have hadding := addRule_cases lexer mode rule names draw?
        exact (hadding.serves hapart horder hleft).imp_right fun hstored => ⟨mode, hstored⟩
  · exact .inr ⟨mode, stored, (rulesIn_run_grow call lexer mode).subset hstored, hmatches⟩

lemma ServesLetters.enableLetters (hcase : lexer.caseInsensitive = false) :
    lexer.enableLetters.ServesLetters := by
  intro letter hletter
  rw [LexerGrammar.enableLetters, hcase]
  exact .inl hletter

lemma lettersApart_enabledFirst (name : String) (calls : List Call) :
    (built name (.enableLetters :: calls)).LettersApart ∧
      (built name (.enableLetters :: calls)).caseInsensitive = true := by
  have hnone : ∀ letter ∈ allLetterRules, ∀ stored ∈ (built name []).rules,
      stored.name ≠ letter.name := fun _ _ stored hstored => absurd hstored List.not_mem_nil
  exact lettersApart_built name calls hnone

/-- **Where letter rules are enabled first, each letter keeps a rule.** -/
lemma servesLetters_built (name : String) (calls : List Call) :
    (built name (.enableLetters :: calls)).ServesLetters := by
  induction calls using List.reverseRecOn with
  | nil =>
      have hcase : (built name []).caseInsensitive = false := rfl
      exact ServesLetters.enableLetters hcase
  | append_singleton calls call ih =>
      rcases lettersApart_enabledFirst name calls with ⟨hapart, hcase⟩
      rw [← List.cons_append, built_append_singleton]
      exact ih.run (inOrder_built name _) hapart hcase call

/-- Where letter rules are enabled first, a letter rule is left as long as no rule has its name. -/
lemma mem_letterRules_built_iff (name : String) (calls : List Call)
    (hletter : letter ∈ allLetterRules) :
    letter ∈ (built name (.enableLetters :: calls)).letterRules ↔
      ∀ stored ∈ (built name (.enableLetters :: calls)).rules, stored.name ≠ letter.name := by
  constructor
  · exact (lettersApart_enabledFirst name calls).1 letter
  · intro hunnamed
    refine (servesLetters_built name calls letter hletter).resolve_right ?_
    rintro ⟨mode, stored, hstored, hname, -⟩
    exact hunnamed stored (mem_rules_of_mem_rulesIn hstored) hname

/-- **When the name of a letter is protected.**  Take any lexer grammar that calls have built, the
first of which enabled letter rules.

* All modes protect the name of a letter if and only if no rule of any mode has it.
* In any case a rule of that name which does not match the letter comes to a conflict if and only if
  no rule of any mode has the name, or one of the mode has it with another body.
* Where there are rules of that name, some mode protects it: the one whose rule took the place of
  the letter rule.  That rule matches the letter, and is the only one of that name in its mode. -/
theorem protects_built_iff (name : String) (calls : List Call) {letter : Rule}
    (hletter : letter ∈ allLetterRules) :
    let lexer := built name (.enableLetters :: calls)
    ((∀ mode, lexer.Protects mode letter) ↔
        ∀ stored ∈ lexer.rules, stored.name ≠ letter.name) ∧
      (∀ {Names : Type} (mode : String) (rule : Rule) (names : Names)
        (draw? : Option (Names → String × Names)), rule.name = letter.name →
          rule.body ≠ .text letter.name → rule.body ≠ letter.body →
            (IsConflict (lexer.addRule mode rule names draw?).result ↔
              (∀ stored ∈ lexer.rules, stored.name ≠ letter.name) ∨
                ∃ stored ∈ lexer.rulesIn mode,
                  stored.name = letter.name ∧ stored.body.same rule.body = false)) ∧
      ((∃ stored ∈ lexer.rules, stored.name = letter.name) →
        ∃ mode, lexer.Protects mode letter ∧ ∃ stored ∈ lexer.rulesIn mode,
          stored.name = letter.name ∧ stored.body = letter.body ∧
            ∀ other ∈ lexer.rulesIn mode, other.name = letter.name → other = stored) := by
  intro lexer
  have horder : lexer.InOrder := inOrder_built name _
  have hleft := mem_letterRules_built_iff name calls hletter
  refine ⟨(horder.forall_protects_iff hletter).trans hleft, ?_, ?_⟩
  · intro Names mode rule names draw? hname hself hbody
    rw [horder.isConflict_iff hletter hname hself hbody, hleft]
  · rintro ⟨first, hfirst, hfirstname⟩
    have hgone : letter ∉ lexer.letterRules := fun hmem => hleft.mp hmem first hfirst hfirstname
    rcases (servesLetters_built name calls letter hletter).resolve_left hgone with
      ⟨mode, stored, hstored, hname, hbody⟩
    refine ⟨mode, horder.protects_of_mem hletter hstored hname hbody, stored, hstored, hname, hbody,
      fun other hother hothername => ?_⟩
    exact horder.eq_of_name hstored hother (hothername.trans hname.symm)

/-- A lexer grammar in which the rule `A` of the default mode took the place of the letter rule. -/
def takenOver : LexerGrammar :=
  built "L" [.enableLetters, .addRule defaultMode { name := "A", body := .text "[aA]" } () none]

/-- With `A` taken over in the default mode, all modes protect `B`, and a mode protects `A`. -/
theorem protects_takenOver :
    (∀ mode, takenOver.Protects mode (letterRule 'B')) ∧
      ∃ mode, takenOver.Protects mode (letterRule 'A') := by
  constructor
  · refine (protects_built_iff "L" _ (by decide : letterRule 'B' ∈ allLetterRules)).1.mpr ?_
    decide
  · have htaken := (protects_built_iff "L"
      [.addRule defaultMode { name := "A", body := .text "[aA]" } () none]
      (by decide : letterRule 'A' ∈ allLetterRules)).2.2
    rcases htaken ⟨{ name := "A", body := .text "[aA]" }, by decide, rfl⟩ with ⟨mode, hmode, -⟩
    exact ⟨mode, hmode⟩

/-- **Another mode does not protect the name of a letter that has been taken over:** a rule `A` that
matches something else is stored there. -/
theorem not_protects_takenOver :
    letterRule 'A' ∈ allLetterRules ∧ ¬takenOver.Protects "S" (letterRule 'A') ∧
      let added := takenOver.addRule "S" { name := "A", body := .text "'x'" } () none
      added.result = .ok (some { name := "A", body := .text "'x'" }) ∧
        ({ name := "A", body := .text "'x'" } : Rule) ∈ added.lexer.rulesIn "S" := by
  refine ⟨by decide, fun hprotects => ?_, rfl, by decide⟩
  have hname : ({ name := "A", body := .text "'x'" } : Rule).name = (letterRule 'A').name := by
    decide
  exact not_isConflict_ok _ (hprotects _ () none hname (by decide) (by decide))

end LexerGrammar

end GrammarConversion.Antlr
