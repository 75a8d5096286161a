import GrammarConversion.Text.Hex
import GrammarConversion.Text.Printable

/-!
# Quoted texts

The printed form of a text inside the printed form of a larger value.  The quotes are single ones,
unless the text has a single quote and no double quote.  A character that is not printable is
written by its code point, in two, four or eight hexadecimal digits.
-/

namespace GrammarConversion.Text

/-- The mark that quotes a text. -/
def quoteMark (cs : List Char) : Char :=
  if '\'' ∈ cs ∧ '"' ∉ cs then '"' else '\''

/-- A character that is not printable, by its code point. -/
def codeEscape (c : Char) : List Char :=
  let n := c.toNat
  if n ≤ 0xFF then '\\' :: 'x' :: hexDigits hexLower 2 n
  else if n ≤ 0xFFFF then '\\' :: 'u' :: hexDigits hexLower 4 n
  else '\\' :: 'U' :: hexDigits hexLower 8 n

/-- A character of a text quoted by `mark`. -/
def quotedChar (mark c : Char) : List Char :=
  if c = mark ∨ c = '\\' then ['\\', c]
  else if c = '\n' then ['\\', 'n']
  else if c = '\r' then ['\\', 'r']
  else if c = '\t' then ['\\', 't']
  else if isPrintable c then [c]
  else codeEscape c

def quoted (s : String) : String :=
  let mark := quoteMark s.toList
  String.ofList (mark :: s.toList.flatMap (quotedChar mark) ++ [mark])

/-- The printed form of a text that may be absent. -/
def quotedOrNone (s : Option String) : String :=
  (s.map quoted).getD "None"

def bracketed (items : List String) : String :=
  "[" ++ ", ".intercalate items ++ "]"

end GrammarConversion.Text
