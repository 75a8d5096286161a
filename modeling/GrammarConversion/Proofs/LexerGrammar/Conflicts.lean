import GrammarConversion.Proofs.LexerGrammar.Alike

/-!
# Conflicts of names

A rule that comes to a conflict of names is not stored, and the modes and their indices stay as
they are.  Letter rules are another matter: a rule with the name of a letter takes the place of the
letter rule first and is compared with the rules of its mode afterwards.  If one of them has the
name with another body, the rule is rejected although the letter rule is gone
(`Failing.letterLost`).

**`keptByConflicts_iff`: conflicts change nothing exactly if each rule with the name of a letter
rule that is left has its body.**  Where letter rules are enabled before any rule has the name of a
letter, there is no such rule at all, for whatever is stored under the name of a letter takes the
place of the letter rule (`LettersApart.run`).
-/

namespace GrammarConversion.Antlr

/-- **Whether adding a rule comes to a conflict of names.** -/
def IsConflict (result : Except Failure (Option Rule)) : Prop :=
  ∃ name body existing, result = .error (.conversion (.namingConflict name body existing))

lemma not_isConflict_ok (stored : Option Rule) : ¬IsConflict (.ok stored) := by
  rintro ⟨name, body, existing, hok⟩
  cases hok

lemma same_letter_iff {letter : Rule} (hletter : letter ∈ allLetterRules) (body : Body) :
    body.same letter.body = true ↔ body = letter.body := by
  rcases List.mem_map.mp hletter with ⟨c, -, rfl⟩
  exact Body.same_text _ _

lemma ruleName_letter : ∀ letter ∈ allLetterRules, ruleName letter.name = letter.name := by
  decide

lemma letter_name_ne_empty : ∀ letter ∈ allLetterRules, letter.name ≠ "" := by
  decide

namespace LexerGrammar

variable {lexer lexer' : LexerGrammar} {mode : String} {rule letter stored : Rule}
  {failure : Failure} {result : Except Failure (Option Rule)}

/-- **Whether conflicts change nothing:** whatever rule comes to one, in whatever mode, the grammar
is as before but for the mode, which is new and without rules unless there has been one. -/
def KeptByConflicts (lexer : LexerGrammar) : Prop :=
  ∀ {Names : Type} (mode : String) (rule : Rule) (names : Names)
    (draw? : Option (Names → String × Names)),
    IsConflict (lexer.addRule mode rule names draw?).result →
      (lexer.addRule mode rule names draw?).lexer = lexer.addMode mode

/-! ## What a failure leaves -/

/-- **What a failed addition leaves** of a grammar that has the mode. -/
inductive Failing (lexer : LexerGrammar) (mode : String) : LexerGrammar → Prop
  | kept : Failing lexer mode lexer
  /-- The rule has taken the place of a letter rule, but the mode has another rule of that name. -/
  | letterLost {letter existing : Rule} (hletter : letter ∈ lexer.letterRules)
      (hmem : existing ∈ lexer.rulesIn mode) (hname : existing.name = letter.name)
      (hdiffers : existing.body.same letter.body = false) :
      Failing lexer mode (lexer.dropLetter letter.name)

lemma Settling.failing (h : Settling lexer mode rule lexer' (.error failure)) :
    Failing lexer mode lexer' := by
  cases h with
  | ordinary _ hplace =>
      cases hplace with
      | conflict => exact .kept
  | letter hletter _ hplace =>
      rcases of_letterRule?_eq_some hletter with ⟨hmem, hname⟩
      cases hplace with
      | conflict _ hexisting hsame hdiffers =>
          rw [← hname]
          exact .letterLost hmem hexisting (hsame.trans hname.symm) hdiffers
  | refused => exact .kept

/-- **A failed addition stores nothing,** and at most one letter rule is lost. -/
lemma Adding.failing {Names : Type} {names names' : Names}
    {draw? : Option (Names → String × Names)}
    (h : Adding lexer mode rule names draw? lexer' names' (.error failure)) :
    Failing (lexer.addMode mode) mode lexer' := by
  cases h with
  | named _ hsettle => exact hsettle.failing
  | unnamed => exact .kept
  | drawn _ _ _ hsettle => exact hsettle.failing

lemma Failing.modes_eq (h : Failing lexer mode lexer') : lexer'.modes = lexer.modes := by
  cases h with
  | kept => rfl
  | letterLost => rfl

/-! ## Letter rules that are lost -/

/-- Letter rules have different names. -/
lemma InOrder.letter_eq (h : lexer.InOrder) {other : Rule} {name : String}
    (hknown : letter ∈ allLetterRules) (hname : letter.name = name)
    (hfound : lexer.letterRule? name = some other) : other = letter := by
  rcases of_letterRule?_eq_some hfound with ⟨hmem, hothername⟩
  exact List.inj_on_of_nodup_map nodup_letter_names (h.letters.subset hmem) hknown
    (hothername.trans hname.symm)

lemma InOrder.letterRule?_eq (h : lexer.InOrder) (hletter : letter ∈ lexer.letterRules) :
    lexer.letterRule? letter.name = some letter := by
  obtain ⟨found, hfound⟩ : ∃ found, lexer.letterRule? letter.name = some found :=
    Option.isSome_iff_exists.mp (List.find?_isSome.mpr ⟨letter, hletter, by simp⟩)
  rw [hfound, h.letter_eq (h.letters.subset hletter) rfl hfound]

/-- **A letter rule is lost** when it is to be stored in a mode that has another rule of that
name. -/
lemma InOrder.letter_lost (h : lexer.InOrder) (hletter : letter ∈ lexer.letterRules)
    (hstored : stored ∈ lexer.rulesIn mode) (hname : stored.name = letter.name)
    (hbody : stored.body ≠ letter.body)
    (hsettle : Settling lexer mode letter lexer' result) :
    IsConflict result ∧ lexer' = lexer.dropLetter letter.name := by
  have hknown : letter ∈ allLetterRules := h.letters.subset hletter
  have hfound := h.letterRule?_eq hletter
  cases hsettle with
  | ordinary hnone => exact absurd (hfound.symm.trans hnone) (Option.some_ne_none letter)
  | refused hsome hdiffers =>
      obtain rfl := h.letter_eq hknown rfl hsome
      exact absurd (.inr rfl) hdiffers
  | letter hsome _ hplace =>
      obtain rfl := h.letter_eq hknown rfl hsome
      cases hplace with
      | dropped hself => exact absurd hself (letter_body_ne _ hknown)
      | present _ hmem hothername hsame =>
          rw [h.eq_of_name hstored hmem (hothername.trans hname.symm),
            same_letter_iff hknown] at hsame
          exact absurd hsame hbody
      | conflict => exact ⟨⟨_, _, _, rfl⟩, rfl⟩
      | appended _ hnew => exact absurd hname (hnew stored hstored)

lemma dropLetter_ne (hletter : letter ∈ lexer.letterRules) :
    lexer.dropLetter letter.name ≠ lexer := by
  intro hsame
  rw [← hsame] at hletter
  exact (mem_letterRules_dropLetter.mp hletter).2 rfl

/-- **Conflicts change nothing** exactly if each rule with the name of a letter rule has its
body. -/
lemma InOrder.keptByConflicts_iff (h : lexer.InOrder) :
    KeptByConflicts lexer ↔ ∀ letter ∈ lexer.letterRules, ∀ stored ∈ lexer.rules,
      stored.name = letter.name → stored.body = letter.body := by
  constructor
  · intro hkept letter hletter stored hstored hname
    by_contra hbody
    rcases h.distinctModes.exists_mode hstored with ⟨mode, hmem⟩
    have hknown : letter ∈ allLetterRules := h.letters.subset hletter
    have hsettle := ((addRule_cases lexer mode letter () none).settling_of_named
      (letter_name_ne_empty letter hknown)).1
    rw [ruleName_letter letter hknown] at hsettle
    have hletter' : letter ∈ (lexer.addMode mode).letterRules := by rwa [letterRules_addMode]
    have hmem' : stored ∈ (lexer.addMode mode).rulesIn mode := by rwa [rulesIn_addMode]
    rcases (h.addMode mode).letter_lost hletter' hmem' hname hbody hsettle with ⟨hconflict, hlost⟩
    exact dropLetter_ne hletter' (hlost.symm.trans (hkept mode letter () none hconflict))
  · intro hbodies Names mode rule names draw? hconflict
    rcases hconflict with ⟨name, body, existing, hresult⟩
    have hadding := addRule_cases lexer mode rule names draw?
    rw [hresult] at hadding
    generalize (lexer.addRule mode rule names draw?).lexer = lexer' at hadding
    cases hadding.failing with
    | kept => rfl
    | @letterLost letter stored hletter hmem hname hdiffers =>
        rw [letterRules_addMode] at hletter
        rw [rulesIn_addMode] at hmem
        have hbody := hbodies letter hletter stored (mem_rules_of_mem_rulesIn hmem) hname
        rw [← same_letter_iff (h.letters.subset hletter), hdiffers] at hbody
        exact Bool.noConfusion hbody

/-! ## Letter rules and stored rules -/

/-- **Whether the letter rules that are left have names of their own.** -/
def LettersApart (lexer : LexerGrammar) : Prop :=
  ∀ letter ∈ lexer.letterRules, ∀ stored ∈ lexer.rules, stored.name ≠ letter.name

lemma mem_rules_append (h : stored ∈ (lexer.append mode rule).rules) :
    stored ∈ lexer.rules ∨ stored = rule := by
  rcases List.mem_flatMap.mp h with ⟨found, hfound, hmem⟩
  rcases List.mem_map.mp hfound with ⟨original, horiginal, rfl⟩
  split at hmem
  · rcases List.mem_append.mp hmem with hmem | hmem
    · exact .inl (List.mem_flatMap.mpr ⟨original, horiginal, hmem⟩)
    · exact .inr (List.mem_singleton.mp hmem)
  · exact .inl (List.mem_flatMap.mpr ⟨original, horiginal, hmem⟩)

lemma LettersApart.addMode (h : lexer.LettersApart) (name : String) :
    (lexer.addMode name).LettersApart := by
  rw [LettersApart, letterRules_addMode, rules_addMode]
  exact h

lemma LettersApart.enableLetters (h : lexer.LettersApart)
    (hnames : ∀ letter ∈ allLetterRules, ∀ stored ∈ lexer.rules, stored.name ≠ letter.name) :
    lexer.enableLetters.LettersApart := by
  rw [LexerGrammar.enableLetters]
  split
  · exact h
  · exact hnames

lemma Placing.lettersApart (h : Placing lexer mode rule lexer' result) (hapart : lexer.LettersApart)
    (hnone : lexer.letterRule? rule.name = none) : lexer'.LettersApart := by
  cases h with
  | appended =>
      intro letter hletter stored hstored
      rcases mem_rules_append hstored with hbefore | rfl
      · exact hapart letter hletter stored hbefore
      · exact (letterRule?_eq_none_iff.mp hnone letter hletter).symm
  | _ => exact hapart

/-- A rule with the name of a letter is only stored if the letter rule gives way. -/
lemma Settling.lettersApart (h : Settling lexer mode rule lexer' result)
    (hapart : lexer.LettersApart) : lexer'.LettersApart := by
  cases h with
  | ordinary hnone hplace => exact hplace.lettersApart hapart hnone
  | letter _ _ hplace =>
      exact hplace.lettersApart
        (fun letter hletter => hapart letter (mem_letterRules_dropLetter.mp hletter).1)
        (letterRule?_dropLetter_self lexer rule.name)
  | refused => exact hapart

lemma Adding.lettersApart {Names : Type} {names names' : Names}
    {draw? : Option (Names → String × Names)}
    (h : Adding lexer mode rule names draw? lexer' names' result) (hapart : lexer.LettersApart) :
    lexer'.LettersApart := by
  cases h with
  | named _ hsettle => exact hsettle.lettersApart (hapart.addMode mode)
  | drawn _ _ _ hsettle => exact hsettle.lettersApart (hapart.addMode mode)
  | _ => exact hapart.addMode mode

/-- **Once letter rules have been enabled, calls keep them apart** from the rules that are
stored. -/
lemma LettersApart.run (hapart : lexer.LettersApart) (hcase : lexer.caseInsensitive = true)
    (call : Call) : (call.run lexer).LettersApart ∧ (call.run lexer).caseInsensitive = true := by
  cases call with
  | addMode name =>
      exact ⟨hapart.addMode name, (keepsShape_addMode lexer name).caseInsensitive.trans hcase⟩
  | enableLetters =>
      have hsame : Call.enableLetters.run lexer = lexer := by
        rw [Call.run, LexerGrammar.enableLetters, if_pos hcase]
      rw [hsame]
      exact ⟨hapart, hcase⟩
  | addRule mode rule names draw? =>
      have hadding := addRule_cases lexer mode rule names draw?
      exact ⟨hadding.lettersApart hapart, hadding.keepsShape.caseInsensitive.trans hcase⟩

lemma caseInsensitive_enableLetters (lexer : LexerGrammar) :
    lexer.enableLetters.caseInsensitive = true := by
  rw [enableLetters]
  split
  · assumption
  · rfl

/-- **Letter rules and stored rules are apart** if letter rules are enabled before any rule has the
name of a letter. -/
lemma lettersApart_built (name : String) {before : List Call} (later : List Call)
    (hnames : ∀ letter ∈ allLetterRules, ∀ stored ∈ (built name before).rules,
      stored.name ≠ letter.name) :
    (built name (before ++ .enableLetters :: later)).LettersApart ∧
      (built name (before ++ .enableLetters :: later)).caseInsensitive = true := by
  induction later using List.reverseRecOn with
  | nil =>
      have hapart : (built name before).LettersApart := fun letter hletter =>
        hnames letter ((inOrder_built name before).letters.subset hletter)
      rw [built_append_singleton]
      exact ⟨hapart.enableLetters hnames, caseInsensitive_enableLetters _⟩
  | append_singleton later call ih =>
      rw [← List.cons_append, ← List.append_assoc, built_append_singleton]
      exact ih.1.run ih.2 call

/-- **When conflicts change nothing.**  Take any lexer grammar that calls have built, and a rule
that comes to a conflict of names.

* Nothing has changed, but that the mode may be new and without rules, for all such rules if and
  only if each stored rule with the name of a letter rule that is left has its body.
* In any case all modes have the rules and the index that they had, and case matters as before.
* The former is so where letter rules have been enabled before any rule had the name of a letter,
  whatever is called afterwards. -/
theorem keptByConflicts_built_iff (name : String) (calls : List Call) :
    (KeptByConflicts (built name calls) ↔ ∀ letter ∈ (built name calls).letterRules,
        ∀ stored ∈ (built name calls).rules,
          stored.name = letter.name → stored.body = letter.body) ∧
      (∀ {Names : Type} (mode : String) (rule : Rule) (names : Names)
        (draw? : Option (Names → String × Names)),
        let added := (built name calls).addRule mode rule names draw?
        IsConflict added.result → added.lexer.modes = ((built name calls).addMode mode).modes ∧
          added.lexer.caseInsensitive = (built name calls).caseInsensitive) ∧
      ∀ before later, calls = before ++ .enableLetters :: later →
        (∀ letter ∈ allLetterRules, ∀ stored ∈ (built name before).rules,
          stored.name ≠ letter.name) → KeptByConflicts (built name calls) := by
  have horder := inOrder_built name calls
  refine ⟨horder.keptByConflicts_iff, ?_, ?_⟩
  · intro Names mode rule names draw? added hconflict
    have hadding : Adding (built name calls) mode rule names draw? added.lexer added.names
      added.result := addRule_cases _ mode rule names draw?
    rcases hconflict with ⟨conflicting, body, existing, hresult⟩
    refine ⟨?_, hadding.keepsShape.caseInsensitive⟩
    rw [hresult] at hadding
    exact hadding.failing.modes_eq
  · rintro before later rfl hnames
    refine horder.keptByConflicts_iff.mpr fun letter hletter stored hstored hname => ?_
    exact absurd hname ((lettersApart_built name later hnames).1 letter hletter stored hstored)

/-- Where letter rules are enabled first, a conflict with a rule for a letter changes nothing. -/
theorem keptByConflicts_enabledFirst :
    let lexer := built "L" [.enableLetters,
      .addRule "S" { name := "A", body := .text "[aA]" } () none]
    IsConflict (lexer.addRule "S" { name := "A", body := .text "'x'" } () none).result ∧
      KeptByConflicts lexer := by
  refine ⟨⟨"A", some "'x'", some "[aA]", rfl⟩, ?_⟩
  refine (keptByConflicts_built_iff "L" _).2.2 [] _ rfl fun letter _ stored hstored => ?_
  exact absurd hstored List.not_mem_nil

/-- A lexer grammar with a rule `A` from before letter rules were enabled. -/
def enabledLate : LexerGrammar :=
  built "L" [.addRule defaultMode { name := "A", body := .text "'x'" } () none, .enableLetters]

/-- **A letter rule is lost in a conflict:** the rule that is to take its place is rejected, since
the mode has had another rule of that name before letter rules were enabled. -/
theorem letter_lost_enabledLate :
    ¬KeptByConflicts enabledLate ∧
      let added := enabledLate.addRule defaultMode { name := "A", body := .text "[aA]" } () none
      IsConflict added.result ∧ letterRule 'A' ∈ enabledLate.letterRules ∧
        letterRule 'A' ∉ added.lexer.letterRules := by
  have hconflict : IsConflict (enabledLate.addRule defaultMode
      { name := "A", body := .text "[aA]" } () none).result := ⟨"A", some "[aA]", some "'x'", rfl⟩
  have hlost : letterRule 'A' ∉ (enabledLate.addRule defaultMode
      { name := "A", body := .text "[aA]" } () none).lexer.letterRules := by decide
  refine ⟨fun hkept => hlost ?_, hconflict, by decide, hlost⟩
  rw [hkept _ _ _ _ hconflict, letterRules_addMode]
  decide

end LexerGrammar

end GrammarConversion.Antlr
