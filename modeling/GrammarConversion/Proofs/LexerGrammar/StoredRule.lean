import Mathlib.Data.List.Perm.Subperm
import GrammarConversion.Proofs.LexerGrammar.Answers

/-!
# The rule that is given back

Whoever adds a rule goes on with the rule that is given back: its name is the one that others refer
to.  It may be a new rule or one from before, and its name and body may not be those of the request.

**A source of names** gives one name after another (`nameAt`).  It is asked until there is a name
that no rule has.  If its names are all different, one of the first few is free, since there are no
more taken names than rules (`exists_free_nameAt`).

**`addRule_spec`: what adding a rule comes to.**
-/

namespace GrammarConversion.Antlr

namespace LexerGrammar

variable {lexer lexer' : LexerGrammar} {mode other : String} {rule stored : Rule}

/-! ## Sources of names -/

section Sources

variable {Names : Type} {draw : Names → String × Names} {names : Names}

/-- The names that a source gives, one after another. -/
def nameAt (draw : Names → String × Names) (names : Names) : Nat → String
  | 0 => (draw names).1
  | n + 1 => nameAt draw (draw names).2 n

/-- **The search for a name** passes over taken names, and ends early only where one is free. -/
lemma exists_drawUnused_eq (draw : Names → String × Names) (taken : String → Bool) (more : Nat) :
    ∀ names, ∃ passed ≤ more, (drawUnused draw taken more names).1 = nameAt draw names passed ∧
      (∀ n < passed, taken (nameAt draw names n) = true) ∧
      (passed < more → taken (nameAt draw names passed) = false) := by
  induction more with
  | zero => exact fun names => ⟨0, Nat.le_refl 0, rfl, fun n hn => absurd hn (Nat.not_lt_zero n),
      fun hlt => absurd hlt (Nat.lt_irrefl 0)⟩
  | succ more ih =>
      intro names
      rw [drawUnused]
      split
      · rename_i htaken
        rcases ih (draw names).2 with ⟨passed, hle, hdrawn, hpassed, hfree⟩
        refine ⟨passed + 1, Nat.succ_le_succ hle, hdrawn, fun n hn => ?_, fun hlt => ?_⟩
        · cases n with
          | zero => exact htaken
          | succ n => exact hpassed n (Nat.lt_of_succ_lt_succ hn)
        · exact hfree (Nat.lt_of_succ_lt_succ hlt)
      · rename_i hfree
        exact ⟨0, Nat.zero_le _, rfl, fun n hn => absurd hn (Nat.not_lt_zero n),
          fun _ => (Bool.not_eq_true _).mp hfree⟩

lemma isSome_ruleNamed?_iff {name : String} :
    (lexer.ruleNamed? name).isSome = true ↔ name ∈ lexer.rules.map Rule.name := by
  simp [ruleNamed?, List.find?_isSome]

/-- **A source of different names has one that is free** before more names are drawn than there are
rules. -/
lemma exists_free_nameAt (lexer : LexerGrammar)
    (hdistinct : Function.Injective (nameAt draw names)) :
    ∃ passed, (drawUnused draw (fun name => (lexer.ruleNamed? name).isSome) lexer.rules.length
        names).1 = nameAt draw names passed ∧
      (∀ n < passed, nameAt draw names n ∈ lexer.rules.map Rule.name) ∧
      nameAt draw names passed ∉ lexer.rules.map Rule.name := by
  rcases exists_drawUnused_eq draw (fun name => (lexer.ruleNamed? name).isSome)
    lexer.rules.length names with ⟨passed, hle, hdrawn, hpassed, hfree⟩
  simp only [isSome_ruleNamed?_iff, ← Bool.not_eq_true] at hpassed hfree
  refine ⟨passed, hdrawn, hpassed, fun htaken => ?_⟩
  -- otherwise there are more taken names than rules
  have hlast : passed = lexer.rules.length :=
    Nat.le_antisymm hle (Nat.not_lt.mp fun hlt => hfree hlt htaken)
  have hnodup : ((List.range (passed + 1)).map (nameAt draw names)).Nodup :=
    List.nodup_range.map hdistinct
  have hsubset : (List.range (passed + 1)).map (nameAt draw names) ⊆ lexer.rules.map Rule.name := by
    intro name hname
    rcases List.mem_map.mp hname with ⟨n, hn, rfl⟩
    rcases Nat.lt_succ_iff_lt_or_eq.mp (List.mem_range.mp hn) with hlt | rfl
    · exact hpassed n hlt
    · exact htaken
  have hlength := (List.subperm_of_subset hnodup hsubset).length_le
  rw [List.length_map, List.length_map, List.length_range, hlast] at hlength
  exact Nat.not_succ_le_self _ hlength

end Sources

/-- **The name that a rule has in the end:** the one it comes with, or if it has none the first one
of the source that no rule of any mode has. -/
inductive EndsUpAs {Names : Type} (lexer : LexerGrammar) (rule : Rule) (names : Names)
    (draw? : Option (Names → String × Names)) : String → Prop
  | requested (hname : rule.name ≠ "") : EndsUpAs lexer rule names draw? (ruleName rule.name)
  | drawn {draw : Names → String × Names} {passed : Nat} (hname : rule.name = "")
      (hdraw : draw? = some draw)
      (hpassed : ∀ n < passed, nameAt draw names n ∈ lexer.rules.map Rule.name)
      (hfree : nameAt draw names passed ∉ lexer.rules.map Rule.name) :
      EndsUpAs lexer rule names draw? (ruleName (nameAt draw names passed))

/-! ## What is stored, and under which name -/

section Storing

variable {Names : Type} {names names' : Names} {draw? : Option (Names → String × Names)}

/-- A rule without a name that its mode has a rule for is not added. -/
lemma InOrder.addRule_of_found (horder : lexer.InOrder) (hname : rule.name = "")
    (hfirst : (lexer.rulesIn mode).find? (Mode.isRuleFor rule.body) = some stored) :
    (lexer.addRule mode rule names draw?).result = .ok (some stored) ∧
      (lexer.addRule mode rule names draw?).lexer = lexer ∧
      (lexer.addRule mode rule names draw?).names = names := by
  rcases horder.addRule_of_answers (.indexed hname hfirst) names draw? with
    ⟨hlexer, hnames, hresult⟩
  exact ⟨hresult, hlexer, hnames⟩

/-- **A rule that goes through** is found by its body, if it has no name and its mode has one for
it, or else it is settled under the name that it has in the end. -/
lemma InOrder.found_or_settled (horder : lexer.InOrder)
    (hdistinct : ∀ draw, draw? = some draw → Function.Injective (nameAt draw names))
    {result : Option Rule} (hresult : (lexer.addRule mode rule names draw?).result = .ok result) :
    (∃ first, rule.name = "" ∧
        (lexer.rulesIn mode).find? (Mode.isRuleFor rule.body) = some first ∧
        result = some first ∧ (lexer.addRule mode rule names draw?).lexer = lexer) ∨
      ∃ given, EndsUpAs lexer rule names draw? given ∧
        Settling (lexer.addMode mode) mode { rule with name := given }
          (lexer.addRule mode rule names draw?).lexer (.ok result) := by
  have hadding := addRule_cases lexer mode rule names draw?
  rw [hresult] at hadding
  by_cases hname : rule.name = ""
  · cases hfirst : (lexer.rulesIn mode).find? (Mode.isRuleFor rule.body) with
    | some first =>
        rcases horder.addRule_of_found hname hfirst with ⟨hfound, hlexer, -⟩
        exact .inl ⟨first, hname, rfl, Except.ok.inj (hresult.symm.trans hfound), hlexer⟩
    | none =>
        rcases hadding.settling_of_unnamed horder hname hfirst with ⟨draw, hdraw, hsettle⟩
        rcases exists_free_nameAt (lexer.addMode mode) (hdistinct draw hdraw) with
          ⟨passed, hdrawn, hpassed, hfree⟩
        rw [hdrawn] at hsettle
        rw [rules_addMode] at hpassed hfree
        exact .inr ⟨_, .drawn hname hdraw hpassed hfree, hsettle⟩
  · exact .inr ⟨_, .requested hname, (hadding.settling_of_named hname).1⟩

lemma EndsUpAs.eq_of_named {given : String} (h : EndsUpAs lexer rule names draw? given)
    (hname : rule.name ≠ "") : given = ruleName rule.name := by
  cases h with
  | requested => rfl
  | drawn hempty => exact absurd hempty hname

/-- **The body that is stored** is that of the letter rule of the name, if there is one left. -/
lemma Settling.body_eq (h : Settling lexer mode rule lexer' (.ok (some stored))) {found : Mode}
    (hmode : lexer.mode? mode = some found) :
    stored.body = ((lexer.letterRule? rule.name).map Rule.body).getD rule.body := by
  cases h with
  | ordinary hletter hplace =>
      rw [hletter]
      exact (hplace.settled hmode).2.1
  | letter hletter _ hplace =>
      rw [hletter]
      exact (hplace.settled hmode).2.1

/-- **The rule that is given back** is in its mode, from before or as the last one. -/
lemma Settling.gives_back {given : String}
    (h : Settling (lexer.addMode mode) mode { rule with name := given } lexer'
      (.ok (some stored))) :
    stored.name = given ∧ stored ∈ lexer'.rulesIn mode ∧
      (lexer'.rulesIn mode = lexer.rulesIn mode ∨
        lexer'.rulesIn mode = lexer.rulesIn mode ++ [stored]) ∧
      (stored.body = rule.body ∨
        ∃ letter, lexer.letterRule? given = some letter ∧ stored.body = letter.body) ∧
      ∀ letter, lexer.letterRule? given = some letter → stored.body = letter.body := by
  rcases mode?_addMode_self lexer mode with ⟨found, hmode⟩
  rcases h.settled hmode with ⟨hname, hsettled⟩
  have hgrows := hsettled.grows
  rw [rulesIn_addMode] at hgrows
  have hbody : stored.body = ((lexer.letterRule? given).map Rule.body).getD rule.body := by
    rw [letterRule?, ← letterRules_addMode lexer mode]
    exact h.body_eq hmode
  refine ⟨hname, hgrows.mem, ?_, ?_, fun letter hletter => by rw [hbody, hletter]; rfl⟩
  · cases hgrows with
    | kept hrules => exact .inl hrules
    | added hrules => exact .inr hrules
  · cases hletter : lexer.letterRule? given with
    | none => exact .inl (by rw [hbody, hletter]; rfl)
    | some letter => exact .inr ⟨letter, rfl, by rw [hbody, hletter]; rfl⟩

/-! ## Other modes -/

lemma mode?_addMode_of_ne (lexer : LexerGrammar) (hother : other ≠ mode) :
    (lexer.addMode mode).mode? other = lexer.mode? other := by
  have hnone : [({ name := mode } : Mode)].find? (fun found => found.name == other) = none :=
    List.find?_eq_none.mpr (by simpa using hother.symm)
  rw [addMode]
  split
  · rfl
  · rw [mode?, List.find?_append, hnone, Option.or_none, mode?]

lemma Extends.mode?_eq {name : String} (h : Extends lexer mode name lexer')
    (hother : other ≠ mode) : lexer'.mode? other = lexer.mode? other := by
  cases h with
  | same hmodes => rw [mode?, mode?, hmodes]
  | @appended added _ _ _ hmodes =>
      have happend := mode?_append lexer mode other added
      rw [mode?, ← hmodes] at happend
      rw [mode?, happend]
      cases hmode : lexer.mode? other with
      | none => rfl
      | some found =>
          rw [Option.map_some, if_neg]
          rwa [name_of_mode? hmode]

/-! ## What adding a rule comes to -/

/-- **What adding a rule comes to.**  Take any lexer grammar that calls have built, a mode, a rule,
and a source of names that are all different.

* All other modes stay as they are.
* If a rule is given back, it is in the mode, whose rules are those from before or one more, namely
  that one at the end.  Its body is the one that was asked for, or it has the name of a letter whose
  rule was left, and the body of that rule.  Unless it is given back for its body, it has the body
  of such a letter rule whenever one has its name.  If a name was asked for, it has that name; if
  not, and if the mode had no rule with the body, it has the first name of the source that was free.
* If no name was asked for and the mode has a rule with the body that is no fragment, the first such
  rule is given back, nothing changes, and the source is left as it is.
* If no rule is given back, no mode has changed, and the body is the name that the rule has in the
  end. -/
theorem addRule_spec (name : String) (calls : List Call) (mode : String) (rule : Rule)
    (names : Names)
    (hdistinct : ∀ draw, draw? = some draw → Function.Injective (nameAt draw names)) :
    let lexer := built name calls
    let added := lexer.addRule mode rule names draw?
    let found? := (lexer.rulesIn mode).find? fun first =>
      !first.isFragment && first.body.same rule.body
    (∀ other, other ≠ mode → added.lexer.mode? other = lexer.mode? other) ∧
      (∀ stored, added.result = .ok (some stored) →
        stored ∈ added.lexer.rulesIn mode ∧
          (added.lexer.rulesIn mode = lexer.rulesIn mode ∨
            added.lexer.rulesIn mode = lexer.rulesIn mode ++ [stored]) ∧
          (stored.body = rule.body ∨
            ∃ letter, lexer.letterRule? stored.name = some letter ∧ stored.body = letter.body) ∧
          (rule.name ≠ "" ∨ found? = none → ∀ letter,
            lexer.letterRule? stored.name = some letter → stored.body = letter.body) ∧
          (rule.name ≠ "" → stored.name = ruleName rule.name) ∧
          (rule.name = "" → found? = none → EndsUpAs lexer rule names draw? stored.name)) ∧
      (rule.name = "" → ∀ first, found? = some first →
        added.result = .ok (some first) ∧ added.lexer = lexer ∧ added.names = names) ∧
      (added.result = .ok none →
        (∀ other, added.lexer.rulesIn other = lexer.rulesIn other) ∧
          ∃ given, EndsUpAs lexer rule names draw? given ∧ rule.body = .text given) := by
  intro lexer added found?
  have horder : lexer.InOrder := inOrder_built name calls
  refine ⟨fun other hother => ?_, fun stored hresult => ?_,
    fun hname first hfirst => horder.addRule_of_found hname hfirst, fun hresult => ?_⟩
  · rcases (addRule_cases lexer mode rule names draw?).extends_modes with ⟨given, hextends⟩
    exact (hextends.mode?_eq hother).trans (mode?_addMode_of_ne lexer hother)
  · rcases horder.found_or_settled hdistinct hresult with
      ⟨first, hname, hfirst, hstored, hlexer⟩ | ⟨given, hgiven, hsettle⟩
    · obtain rfl := Option.some.inj hstored
      have hrules : added.lexer.rulesIn mode = lexer.rulesIn mode := by rw [hlexer]
      rw [hrules]
      have hfound : found? ≠ none :=
        fun hnone => absurd (hfirst.symm.trans hnone) (Option.some_ne_none stored)
      exact ⟨List.mem_of_find?_eq_some hfirst, .inl rfl,
        .inl (Mode.isRuleFor_iff.mp (List.find?_some hfirst)).2.1,
        fun hasked => absurd (hasked.resolve_left (not_not_intro hname)) hfound,
        fun hne => absurd hname hne, fun _ hnone => absurd hnone hfound⟩
    · obtain ⟨rfl, hmem, hrules, hbody, hletter⟩ := hsettle.gives_back
      exact ⟨hmem, hrules, hbody, fun _ => hletter, hgiven.eq_of_named, fun _ _ => hgiven⟩
  · rcases horder.found_or_settled hdistinct hresult with
      ⟨first, -, -, hnone, -⟩ | ⟨given, hgiven, hsettle⟩
    · cases hnone
    · have hletters : ∀ letter ∈ (lexer.addMode mode).letterRules, letter ∈ allLetterRules := by
        rw [letterRules_addMode]
        exact fun letter hletter => horder.letters.subset hletter
      refine ⟨fun other => ?_, given, hgiven, hsettle.body_eq_of_none hletters⟩
      exact (hsettle.rulesIn_eq_of_none other).trans (rulesIn_addMode lexer mode other)

end Storing

/-- A source of names that are longer and longer. -/
def tally (name : String) : String × String :=
  (name, name.push 'X')

lemma length_nameAt_tally (name : String) (n : Nat) :
    (nameAt tally name n).length = name.length + n := by
  induction n generalizing name with
  | zero => rfl
  | succ n ih =>
      show (nameAt tally (name.push 'X') n).length = _
      rw [ih, String.length_push, Nat.add_assoc, Nat.add_comm 1 n]

lemma nameAt_tally_injective (name : String) : Function.Injective (nameAt tally name) := by
  intro first second hsame
  have hlength := congrArg String.length hsame
  rw [length_nameAt_tally, length_nameAt_tally] at hlength
  exact Nat.add_left_cancel hlength

/-- A lexer grammar with a rule under the first name of a tally. -/
def tallied : LexerGrammar :=
  built "L" [.addRule "S" { name := "X", body := .text "'-'" } () none]

/-- A rule without a name gets the first name that is free. -/
theorem addRule_spec_tallied :
    (tallied.addRule defaultMode { name := "", body := .text "'+'" } "X" (some tally)).result
        = .ok (some { name := "XX", body := .text "'+'" }) ∧
      EndsUpAs tallied { name := "", body := .text "'+'" } "X" (some tally) "XX" := by
  have hdistinct : ∀ draw, some tally = some draw → Function.Injective (nameAt draw "X") := by
    intro draw hdraw
    rw [← Option.some.inj hdraw]
    exact nameAt_tally_injective "X"
  have hresult : (tallied.addRule defaultMode { name := "", body := .text "'+'" } "X"
      (some tally)).result = .ok (some { name := "XX", body := .text "'+'" }) := rfl
  have hspec := addRule_spec "L" [.addRule "S" { name := "X", body := .text "'-'" } () none]
    defaultMode { name := "", body := .text "'+'" } "X" hdistinct
  exact ⟨hresult, (hspec.2.1 _ hresult).2.2.2.2.2 rfl rfl⟩

end LexerGrammar

end GrammarConversion.Antlr
