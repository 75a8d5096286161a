import Mathlib.Data.List.Basic
import GrammarConversion.Code.Calls

/-!
# Calls at the places of some code

A call is recognised by a name, what precedes it and what follows it.  A scan goes through the code
once: it remembers the image of the token before, and what follows is still to come.  Where the
calls stand can be said without a scan, by looking at each place and its two neighbours
(`calledAt?`).

**`ruleCalls_eq`: a scan finds the calls at all places,** in the order of the places.
-/

namespace GrammarConversion.Code

/-- The rule that the token at a place calls, if it calls one of `names`: it is an identifier, an
opening parenthesis follows, and `new` does not precede it. -/
def calledAt? (names : List String) (tokens : List Token) (place : Nat) : Option String :=
  match tokens[place]? with
  | none => none
  | some token =>
    if token.kind = .identifier ∧ token.image ∈ names ∧
        (tokens[place + 1]?).map Token.image = some "(" ∧
        ¬(0 < place ∧ (tokens[place - 1]?).map Token.image = some "new")
    then some token.image else none

/-- The rules that are called at the places of some code, in the order of the places. -/
def callsByPlace (names : List String) (tokens : List Token) : List String :=
  (List.range tokens.length).filterMap (calledAt? names tokens)

lemma opensArguments_iff (tokens : List Token) :
    opensArguments tokens = true ↔ (tokens[0]?).map Token.image = some "(" := by
  cases tokens <;> simp [opensArguments]

/-- What a scan that has passed `before` looks at is what is asked of the place that comes next. -/
lemma calledAt?_length (names : List String) (before : List Token) (token : Token)
    (rest : List Token) :
    calledAt? names (before ++ token :: rest) before.length
      = if token.kind = .identifier ∧ token.image ∈ names ∧ opensArguments rest ∧
            before.getLast?.map Token.image ≠ some "new"
        then some token.image else none := by
  have hnext : (before ++ token :: rest)[before.length + 1]? = rest[0]? := by
    simp [List.getElem?_append_right]
  have hlast : (0 < before.length ∧
      ((before ++ token :: rest)[before.length - 1]?).map Token.image = some "new") ↔
        before.getLast?.map Token.image = some "new" := by
    cases before with
    | nil => simp
    | cons first before =>
        rw [List.getElem?_append_left (by simp), List.getLast?_eq_getElem?]
        simp
  simp only [calledAt?, List.getElem?_append_right (Nat.le_refl _), Nat.sub_self,
    List.getElem?_cons_zero, hnext, hlast, opensArguments_iff, ne_eq]

/-- The scan has passed `before`, of whose tokens it knows the last one. -/
lemma ruleCallsAfter_eq (names : List String) (rest : List Token) :
    ∀ before : List Token,
      ruleCallsAfter names (before.getLast?.map Token.image) rest
        = (List.range' before.length rest.length).filterMap (calledAt? names (before ++ rest)) := by
  induction rest with
  | nil => simp [ruleCallsAfter]
  | cons token rest ih =>
      intro before
      have hlater : ruleCallsAfter names (some token.image) rest
          = (List.range' (before.length + 1) rest.length).filterMap
              (calledAt? names (before ++ token :: rest)) := by
        simpa using ih (before ++ [token])
      have hcalled := calledAt?_length names before token rest
      rw [List.length_cons, List.range'_succ, List.filterMap_cons, ruleCallsAfter, hlater, hcalled]
      split <;> rfl

/-- **The calls in some code** are those at the places where one stands, in their order. -/
lemma ruleCalls_eq (names : List String) (tokens : List Token) :
    ruleCalls names tokens = callsByPlace names tokens := by
  simpa [ruleCalls, callsByPlace, List.range_eq_range'] using ruleCallsAfter_eq names tokens []

/-- **Only rules of the given names are called.** -/
lemma mem_of_mem_callsByPlace {names : List String} {tokens : List Token} {called : String}
    (h : called ∈ callsByPlace names tokens) : called ∈ names := by
  rcases List.mem_filterMap.mp h with ⟨place, -, hcalled⟩
  rw [calledAt?] at hcalled
  split at hcalled
  · cases hcalled
  · split at hcalled
    · rename_i hcall
      rw [← Option.some.inj hcalled]
      exact hcall.2.1
    · cases hcalled

end GrammarConversion.Code
