import GrammarConversion.Text.CodeRange

/-!
# Control and format characters

The characters of the general categories `Cc` (controls) and `Cf` (format characters, such as the
soft hyphen or the directional marks) in version 14 of the character standard.  None of them has
a glyph of its own, so a document that shows one as it is hides it from its reader.
-/

namespace GrammarConversion.Text

def controlRanges : List (Nat × Nat) :=
  [(0x0, 0x1F), (0x7F, 0x9F), (0xAD, 0xAD), (0x600, 0x605), (0x61C, 0x61C), (0x6DD, 0x6DD),
   (0x70F, 0x70F), (0x890, 0x891), (0x8E2, 0x8E2), (0x180E, 0x180E), (0x200B, 0x200F),
   (0x202A, 0x202E), (0x2060, 0x2064), (0x2066, 0x206F), (0xFEFF, 0xFEFF), (0xFFF9, 0xFFFB),
   (0x110BD, 0x110BD), (0x110CD, 0x110CD), (0x13430, 0x13438), (0x1BCA0, 0x1BCA3),
   (0x1D173, 0x1D17A), (0xE0001, 0xE0001), (0xE0020, 0xE007F)]

/-- A character of category `Cc` or `Cf`. -/
def isControl (c : Char) : Bool :=
  covers controlRanges c

end GrammarConversion.Text
