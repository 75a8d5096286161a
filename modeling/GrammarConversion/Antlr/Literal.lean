import GrammarConversion.Antlr.Escape

/-!
# Bodies of lexer rules for literals

A literal that is matched as it stands is one quoted literal.  A literal whose letters match in
either case is cut into maximal runs of letters and of other characters (`caseParts`): a run of
other characters is quoted, a run of letters refers to the letter rules `A` to `Z` one by one.
-/

namespace GrammarConversion.Antlr

/-! ## Letters -/

/-- A letter of the basic Latin alphabet, the only ones that match in either case. -/
def isLetter (c : Char) : Bool :=
  (decide ('a' ≤ c) && decide (c ≤ 'z')) || (decide ('A' ≤ c) && decide (c ≤ 'Z'))

/-- Whether a text lies between the first and the last letter of one case in the order of texts.
For a single character that is being a letter; a longer text may begin with any letter but the
last. -/
def liesAmongLetters (s : String) : Bool :=
  match s.toList with
  | [] => false
  | [c] => isLetter c
  | c :: _ => isLetter c && c ≠ 'z' && c ≠ 'Z'

/-! ## Parts of a literal -/

/-- A run of characters of a literal which are matched alike. -/
inductive LiteralPart where
  /-- Characters matched as they stand. -/
  | verbatim (text : String)
  /-- Letters matched in either case. -/
  | letters (text : String)
  deriving DecidableEq, Repr

def LiteralPart.text : LiteralPart → String
  | .verbatim text => text
  | .letters text => text

/-- What a part contributes to the body of a rule. -/
def LiteralPart.body : LiteralPart → String
  | .verbatim text => "'" ++ escape .literal text ++ "'"
  | .letters text => " ".intercalate (text.toList.map fun c => String.singleton c.toUpper)

def LiteralPart.ofRun (run : List Char) : LiteralPart :=
  if run.any isLetter then .letters (String.ofList run) else .verbatim (String.ofList run)

/-- The maximal runs of letters and of other characters. -/
def caseParts (s : String) : List LiteralPart :=
  (s.toList.splitBy fun a b => isLetter a == isLetter b).map LiteralPart.ofRun

/-- **The body of the rule for a literal.** -/
def literalBody (ignoreCase : Bool) (s : String) : String :=
  if ignoreCase then " ".intercalate ((caseParts s).map LiteralPart.body)
  else (LiteralPart.verbatim s).body

end GrammarConversion.Antlr
