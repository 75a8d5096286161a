import GrammarConversion.Text.Blank

/-!
# Searching and trimming texts

Whether a text holds another one, and a text without the white space around it.
-/

namespace GrammarConversion.Text

/-- Whether `part` occurs in a text. -/
def occursIn (part : List Char) : (text : List Char) → Bool
  | [] => part.isEmpty
  | c :: rest => part.isPrefixOf (c :: rest) || occursIn part rest

def trimmed (s : String) : String :=
  String.ofList (((s.toList.dropWhile isBlank).reverse.dropWhile isBlank).reverse)

end GrammarConversion.Text
