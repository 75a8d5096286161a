import GrammarConversion.Text.CaseTable

/-!
# Upper and lower case

The full case mappings of the character standard.  A character maps to a text: `ß` becomes `SS` in
upper case, `İ` becomes `i` with a dot above in lower case.  Only the capital sigma looks at its
neighbours: at the end of a word its lower case is `ς`, elsewhere it is `σ`.
-/

namespace GrammarConversion.Text

/-- Whether `n` belongs to a run from `first` to `last` in steps of `step`. -/
def inSteps (first last step n : Nat) : Bool :=
  decide (first ≤ n) && decide (n ≤ last) && (n - first) % step == 0

/-- An uppercase character; titlecase characters are not. -/
def isUppercase (c : Char) : Bool :=
  uppercaseRuns.any fun run => inSteps run.1 run.2.1 run.2.2 c.toNat

/-- The character that `runs` map `c` to; a character in none of them stays as it is. -/
def shifted (runs : List CaseRun) (c : Char) : Char :=
  match runs.find? fun run => inSteps run.first run.last run.step c.toNat with
  | some run => Char.ofNat (c.toNat + run.shift).toNat
  | none => c

def upperChar (c : Char) : List Char :=
  match upperCaseExpansions.lookup c.toNat with
  | some codes => codes.map Char.ofNat
  | none => [shifted upperCaseRuns c]

/-- The lower case of a character that does not end a word. -/
def lowerChar (c : Char) : List Char :=
  if c = 'İ' then ['i', '\u0307'] else [shifted lowerCaseRuns c]

/-- Whether the first character of `cs` that counts for the end of a word has case. -/
def meetsCased (cs : List Char) : Bool :=
  ((cs.dropWhile (covers caseIgnorableRanges)).head?.map (covers casedRanges)).getD false

/-- The lower case of a text of which `before` has been read, the nearest character first. -/
def lowerAfter (before : List Char) : List Char → List Char
  | [] => []
  | c :: cs =>
    (if c = 'Σ' && meetsCased before && !meetsCased cs then ['ς'] else lowerChar c)
      ++ lowerAfter (c :: before) cs

def upper (s : String) : String :=
  String.ofList (s.toList.flatMap upperChar)

def lower (s : String) : String :=
  String.ofList (lowerAfter [] s.toList)

end GrammarConversion.Text
