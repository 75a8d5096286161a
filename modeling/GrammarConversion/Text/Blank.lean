import GrammarConversion.Text.CodeRange

/-!
# Blank characters

The characters that count as white space: the separators of the character standard (version 14),
the ASCII controls from tab to carriage return, the four information separators and NEL.
-/

namespace GrammarConversion.Text

def blankRanges : List (Nat × Nat) :=
  [(0x9, 0xD), (0x1C, 0x20), (0x85, 0x85), (0xA0, 0xA0), (0x1680, 0x1680), (0x2000, 0x200A),
   (0x2028, 0x2029), (0x202F, 0x202F), (0x205F, 0x205F), (0x3000, 0x3000)]

/-- **White space.** A character which separates words and belongs to none. -/
def isBlank (c : Char) : Bool :=
  covers blankRanges c

end GrammarConversion.Text
