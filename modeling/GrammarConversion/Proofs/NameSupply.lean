import Mathlib.Tactic.Lemma
import GrammarConversion.Antlr.LexerGrammar
import GrammarConversion.Conversion.NameSupply
import GrammarConversion.Proofs.Reading.Scan

/-!
# Generated names are free

A name for a token without a label is found by two searches, one inside the other: the supply passes
over the reserved names, and the lexer over the names that rules have.  Both are bounded by the
number of names they may have to pass over, and both end at a free name before the bound is reached:
numbers only go up, so each name that is passed over uses one of the taken names up
(`freeNumber_notMem`, `drawUnused_next`).

Generated names are names like any others, but they hold no underscore and are longer than a
letter.  Those that a supply `Gives` are all different (`Gives.nodup`), and the counters show which
ones they are (`Gives.mem_iff`).
-/

namespace GrammarConversion.Conversion.NameSupply

open Antlr
open Model
open Reading

/-! ## Numbered names -/

lemma toList_numbered (kind : ProductionKind) (number : Nat) :
    (numbered kind number).toList = kind.name.toList ++ Nat.toDigits 10 number := by
  rw [numbered, String.toList_append, Nat.toString_eq_repr, Nat.toList_repr]

/-- **Different numbers give different names.** -/
lemma numbered_injective {kind : ProductionKind} {first second : Nat}
    (h : numbered kind first = numbered kind second) : first = second := by
  have hlists : kind.name.toList ++ Nat.toDigits 10 first
      = kind.name.toList ++ Nat.toDigits 10 second := by
    rw [← toList_numbered, ← toList_numbered, h]
  have hdigits := List.append_cancel_left hlists
  have hvalue := congrArg (fun digits => Nat.ofDigitChars 10 digits 0) hdigits
  simpa using hvalue

/-- Different kinds give different names. -/
lemma kind_eq_of_numbered_eq {kind other : ProductionKind} {first second : Nat}
    (h : numbered kind first = numbered other second) : kind = other := by
  have hlists := congrArg String.toList h
  rw [toList_numbered, toList_numbered] at hlists
  cases kind <;> cases other <;>
    first | rfl | exact absurd hlists (by simp [ProductionKind.name])

lemma underscore_notMem_numbered (kind : ProductionKind) (number : Nat) :
    '_' ∉ (numbered kind number).toList := by
  rw [toList_numbered, List.mem_append]
  rintro (h | h)
  · cases kind <;> exact absurd h (by decide)
  · have hdigit : ('_').isDigit = true := Nat.isDigit_of_mem_toDigits (by decide) (by decide) h
    exact absurd hdigit (by decide)

lemma isName_numbered (kind : ProductionKind) (number : Nat) : IsName (numbered kind number) := by
  have hkind : kind.name.toList.all isNameChar = true := by cases kind <;> rfl
  rw [IsName, toList_numbered]
  refine ⟨by cases kind <;> simp [ProductionKind.name], fun c hc => ?_⟩
  rcases List.mem_append.mp hc with hc | hc
  · exact List.all_eq_true.mp hkind c hc
  · have hdigit : c.isDigit = true := Nat.isDigit_of_mem_toDigits (by decide) (by decide) hc
    simp [isNameChar, Char.isAlphanum, hdigit]

lemma one_lt_length_numbered (kind : ProductionKind) (number : Nat) :
    1 < (numbered kind number).toList.length := by
  have hkind : 1 < kind.name.toList.length := by cases kind <;> decide
  rw [toList_numbered, List.length_append]
  exact Nat.lt_add_right _ hkind

lemma ruleName_numbered (kind : ProductionKind) (number : Nat) :
    ruleName (numbered kind number) = numbered kind number := by
  refine if_neg ?_
  intro h
  exact underscore_notMem_numbered kind number (List.mem_of_head? h)

/-! ## Free numbers -/

lemma le_freeNumber (reserved : List String) (kind : ProductionKind) (more number : Nat) :
    number ≤ freeNumber reserved kind more number := by
  induction more generalizing number with
  | zero => exact Nat.le_refl number
  | succ more ih =>
      rw [freeNumber]
      split
      · exact Nat.le_of_succ_le (ih (number + 1))
      · exact Nat.le_refl number

/-- The taken names from some number on are kept in `used`, which loses a name at each step. -/
lemma freeNumber_notMem_of_used {reserved : List String} {kind : ProductionKind} :
    ∀ (more number : Nat) (used : List String), used.length ≤ more →
      (∀ n, number ≤ n → numbered kind n ∈ reserved → numbered kind n ∈ used) →
      numbered kind (freeNumber reserved kind more number) ∉ reserved
  | 0, number, used, hlength, hused => by
      intro h
      have hnil : used = [] := List.eq_nil_of_length_eq_zero (Nat.le_zero.mp hlength)
      have hmem := hused number (Nat.le_refl number) h
      rw [hnil] at hmem
      exact absurd hmem List.not_mem_nil
  | more + 1, number, used, hlength, hused => by
      rw [freeNumber]
      split
      · rename_i htaken
        have hmem := hused number (Nat.le_refl number) htaken
        refine freeNumber_notMem_of_used more (number + 1) (used.erase (numbered kind number))
          ?_ ?_
        · rw [List.length_erase_of_mem hmem]
          omega
        · intro n hn hreserved
          have hne : numbered kind n ≠ numbered kind number := by
            intro h
            have hnumber := numbered_injective h
            omega
          exact (List.mem_erase_of_ne hne).mpr (hused n (by omega) hreserved)
      · assumption

/-- **The supply passes over all reserved names.** -/
lemma freeNumber_notMem (reserved : List String) (kind : ProductionKind) (number : Nat) :
    numbered kind (freeNumber reserved kind reserved.length number) ∉ reserved :=
  freeNumber_notMem_of_used reserved.length number reserved (Nat.le_refl _) fun _ _ h => h

/-- A name that a supply may give. -/
def IsGenerated (reserved : List String) (name : String) : Prop :=
  name ∉ reserved ∧ ∃ kind number, name = numbered kind number

lemma IsGenerated.ruleName_eq {reserved : List String} {name : String}
    (h : IsGenerated reserved name) : ruleName name = name := by
  rcases h.2 with ⟨kind, number, rfl⟩
  exact ruleName_numbered kind number

lemma IsGenerated.underscore_notMem {reserved : List String} {name : String}
    (h : IsGenerated reserved name) : '_' ∉ name.toList := by
  rcases h.2 with ⟨kind, number, rfl⟩
  exact underscore_notMem_numbered kind number

lemma IsGenerated.isName {reserved : List String} {name : String}
    (h : IsGenerated reserved name) : IsName name := by
  rcases h.2 with ⟨kind, number, rfl⟩
  exact isName_numbered kind number

lemma IsGenerated.one_lt_length {reserved : List String} {name : String}
    (h : IsGenerated reserved name) : 1 < name.toList.length := by
  rcases h.2 with ⟨kind, number, rfl⟩
  exact one_lt_length_numbered kind number

/-- The next name is a generated one, with a number that has not been given yet. -/
lemma next_spec (supply : NameSupply) (kind : ProductionKind) :
    ∃ number, supply.counters kind ≤ number ∧ (supply.next kind).1 = numbered kind number ∧
      numbered kind number ∉ supply.reserved ∧
      (supply.next kind).2.counters kind = number + 1 ∧
      (supply.next kind).2.reserved = supply.reserved := by
  refine ⟨freeNumber supply.reserved kind supply.reserved.length (supply.counters kind),
    le_freeNumber _ _ _ _, rfl, freeNumber_notMem _ _ _, ?_, rfl⟩
  exact if_pos rfl

/-! ## Names that no rule has -/

/-- What a supply gives that passes over taken names. -/
structure Draws (supply : NameSupply) (taken : String → Bool) (drawn : String × NameSupply) :
    Prop where
  generated : IsGenerated supply.reserved drawn.1
  free : taken drawn.1 = false
  reserved_eq : drawn.2.reserved = supply.reserved

/-- As for free numbers, the taken names are kept in `used`. -/
lemma drawUnused_next_of_used (kind : ProductionKind) (taken : String → Bool) :
    ∀ (more : Nat) (supply : NameSupply) (used : List String), used.length ≤ more →
      (∀ n, supply.counters kind ≤ n → taken (numbered kind n) = true →
        numbered kind n ∈ used) →
      Draws supply taken
        (LexerGrammar.drawUnused (fun names => names.next kind) taken more supply)
  | 0, supply, used, hlength, hused => by
      rcases supply.next_spec kind with ⟨number, hle, hname, hreserved, -, hkept⟩
      have hnil : used = [] := List.eq_nil_of_length_eq_zero (Nat.le_zero.mp hlength)
      refine ⟨?_, ?_, hkept⟩
      · show IsGenerated _ (supply.next kind).1
        rw [hname]
        exact ⟨hreserved, kind, number, rfl⟩
      · show taken (supply.next kind).1 = false
        rw [hname, ← Bool.not_eq_true]
        intro htaken
        have hmem := hused number hle htaken
        rw [hnil] at hmem
        exact absurd hmem List.not_mem_nil
  | more + 1, supply, used, hlength, hused => by
      rcases supply.next_spec kind with ⟨number, hle, hname, hreserved, hcounter, hkept⟩
      rw [LexerGrammar.drawUnused]
      split
      · rename_i htaken
        rw [hname] at htaken
        have hmem := hused number hle htaken
        have hlength' : (used.erase (numbered kind number)).length ≤ more := by
          rw [List.length_erase_of_mem hmem]
          omega
        have hused' : ∀ n, (supply.next kind).2.counters kind ≤ n →
            taken (numbered kind n) = true →
              numbered kind n ∈ used.erase (numbered kind number) := by
          intro n hn htaken'
          rw [hcounter] at hn
          have hne : numbered kind n ≠ numbered kind number := by
            intro h
            have hnumber := numbered_injective h
            omega
          exact (List.mem_erase_of_ne hne).mpr (hused n (by omega) htaken')
        have hrest := drawUnused_next_of_used kind taken more (supply.next kind).2
          (used.erase (numbered kind number)) hlength' hused'
        have hgenerated := hrest.generated
        rw [hkept] at hgenerated
        exact ⟨hgenerated, hrest.free, hrest.reserved_eq.trans hkept⟩
      · rename_i hfree
        refine ⟨?_, by simpa using hfree, hkept⟩
        rw [hname]
        exact ⟨hreserved, kind, number, rfl⟩

/-- **The lexer passes over the names of all its rules.** -/
lemma drawUnused_next (supply : NameSupply) (kind : ProductionKind) (lexer : LexerGrammar) :
    Draws supply (fun name => (lexer.ruleNamed? name).isSome)
      (LexerGrammar.drawUnused (fun names => names.next kind)
        (fun name => (lexer.ruleNamed? name).isSome) lexer.rules.length supply) := by
  refine drawUnused_next_of_used kind _ lexer.rules.length supply (lexer.rules.map Rule.name)
    (Nat.le_of_eq (List.length_map Rule.name)) ?_
  intro n _ htaken
  rcases Option.isSome_iff_exists.mp htaken with ⟨rule, hrule⟩
  rw [LexerGrammar.ruleNamed?] at hrule
  have hname : rule.name = numbered kind n := by simpa using List.find?_some hrule
  rw [← hname]
  exact List.mem_map_of_mem (List.mem_of_find?_eq_some hrule)

/-! ## Names that have been given -/

/-- **The names that a supply gives,** one after another, for any kinds. -/
inductive Gives : NameSupply → List String → NameSupply → Prop
  | nil (supply : NameSupply) : Gives supply [] supply
  | cons {supply supply' : NameSupply} {names : List String} (kind : ProductionKind)
      (hrest : Gives (supply.next kind).2 names supply') :
      Gives supply ((supply.next kind).1 :: names) supply'

section Gives

variable {supply mid supply' : NameSupply} {names names' : List String} {kind : ProductionKind}

lemma Gives.append (h : Gives supply names mid) (h' : Gives mid names' supply') :
    Gives supply (names ++ names') supply' := by
  induction h with
  | nil => exact h'
  | cons kind _ ih => exact .cons kind (ih h')

lemma Gives.reserved_eq (h : Gives supply names supply') : supply'.reserved = supply.reserved := by
  induction h with
  | nil => rfl
  | cons kind _ ih => exact ih

lemma counters_next_self (supply : NameSupply) (kind : ProductionKind) :
    (supply.next kind).2.counters kind
      = freeNumber supply.reserved kind supply.reserved.length (supply.counters kind) + 1 :=
  if_pos rfl

lemma counters_next_le (supply : NameSupply) (kind other : ProductionKind) :
    supply.counters other ≤ (supply.next kind).2.counters other := by
  show _ ≤ if other = kind then _ else _
  split
  · rename_i hother
    rw [hother]
    exact Nat.le_succ_of_le (le_freeNumber _ _ _ _)
  · exact Nat.le_refl _

lemma Gives.counters_le (h : Gives supply names supply') (kind : ProductionKind) :
    supply.counters kind ≤ supply'.counters kind := by
  induction h with
  | nil => exact Nat.le_refl _
  | cons drawn _ ih => exact (counters_next_le _ drawn kind).trans ih

lemma mem_reserved_of_lt_freeNumber {reserved : List String} :
    ∀ (more number n : Nat), number ≤ n → n < freeNumber reserved kind more number →
      numbered kind n ∈ reserved
  | 0, number, n, hle, hlt => absurd hle (Nat.not_le.mpr hlt)
  | more + 1, number, n, hle, hlt => by
      rw [freeNumber] at hlt
      split at hlt
      · rcases Nat.eq_or_lt_of_le hle with rfl | hlater
        · assumption
        · exact mem_reserved_of_lt_freeNumber more (number + 1) n hlater hlt
      · exact absurd hle (Nat.not_le.mpr hlt)

/-- **Which names have been given** can be seen from the counters: those that are not reserved and
have a number between the counter before and the counter afterwards. -/
lemma Gives.mem_iff (h : Gives supply names supply') (name : String) :
    name ∈ names ↔ ∃ kind number, supply.counters kind ≤ number ∧
      number < supply'.counters kind ∧ numbered kind number ∉ supply.reserved ∧
        name = numbered kind number := by
  induction h with
  | nil =>
      refine ⟨fun hmem => absurd hmem List.not_mem_nil, ?_⟩
      rintro ⟨kind, number, hle, hlt, -⟩
      exact absurd hle (Nat.not_le.mpr hlt)
  | @cons supply supply' names kind hrest ih =>
      rw [List.mem_cons, ih]
      constructor
      · rintro (rfl | ⟨other, number, hle, hlt, hfree, hname⟩)
        · refine ⟨kind, _, le_freeNumber _ _ _ _, ?_, freeNumber_notMem _ _ _, rfl⟩
          rw [Nat.lt_iff_add_one_le, ← counters_next_self]
          exact hrest.counters_le kind
        · exact ⟨other, number, (counters_next_le supply kind other).trans hle, hlt, hfree, hname⟩
      · rintro ⟨other, number, hle, hlt, hfree, rfl⟩
        by_cases hlater : (supply.next kind).2.counters other ≤ number
        · exact .inr ⟨other, number, hlater, hlt, hfree, rfl⟩
        · -- the number is the one that is given now, since reserved ones are passed over
          left
          by_cases hother : other = kind
          · subst hother
            rw [counters_next_self] at hlater
            rcases Nat.eq_or_lt_of_le (Nat.le_of_lt_succ (Nat.not_le.mp hlater)) with
              heq | hpassed
            · rw [heq]
              rfl
            · exact absurd (mem_reserved_of_lt_freeNumber _ _ _ hle hpassed) hfree
          · have hsame : (supply.next kind).2.counters other = supply.counters other :=
              if_neg hother
            exact absurd (hsame ▸ hle) hlater

lemma Gives.isGenerated (h : Gives supply names supply') {name : String} (hname : name ∈ names) :
    IsGenerated supply.reserved name := by
  rcases (h.mem_iff name).mp hname with ⟨kind, number, -, -, hfree, rfl⟩
  exact ⟨hfree, kind, number, rfl⟩

/-- **No name is given twice.** -/
lemma Gives.nodup (h : Gives supply names supply') : names.Nodup := by
  induction h with
  | nil => exact List.nodup_nil
  | @cons supply supply' names kind hrest ih =>
      refine List.nodup_cons.mpr ⟨fun hmem => ?_, ih⟩
      rcases (hrest.mem_iff _).mp hmem with ⟨other, number, hle, -, -, hname⟩
      have hgiven : (supply.next kind).1 = numbered kind
          (freeNumber supply.reserved kind supply.reserved.length (supply.counters kind)) := rfl
      rw [hgiven] at hname
      obtain rfl := kind_eq_of_numbered_eq hname
      rw [← numbered_injective hname] at hle
      rw [counters_next_self] at hle
      exact absurd hle (Nat.not_succ_le_self _)

/-- **A search for a name that is not taken** ends with the name that is given last. -/
lemma gives_drawUnused (kind : ProductionKind) (taken : String → Bool) :
    ∀ (more : Nat) (supply : NameSupply), ∃ passed,
      Gives supply
        (passed ++ [(LexerGrammar.drawUnused (fun names => names.next kind) taken more supply).1])
        (LexerGrammar.drawUnused (fun names => names.next kind) taken more supply).2
  | 0, supply => ⟨[], .cons kind (.nil _)⟩
  | more + 1, supply => by
      rw [LexerGrammar.drawUnused]
      split
      · rcases gives_drawUnused kind taken more (supply.next kind).2 with ⟨passed, hgives⟩
        exact ⟨(supply.next kind).1 :: passed, .cons kind hgives⟩
      · exact ⟨[], .cons kind (.nil _)⟩

end Gives

end GrammarConversion.Conversion.NameSupply
