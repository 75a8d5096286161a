/-!
# Hexadecimal digits

Numbers written with a fixed count of hexadecimal digits, the most significant first.
-/

namespace GrammarConversion.Text

/-- The hexadecimal digit of `d < 16`, with a capital letter from ten on. -/
def hexUpper (d : Nat) : Char :=
  if d < 10 then Char.ofNat (48 + d) else Char.ofNat (55 + d)

/-- The hexadecimal digit of `d < 16`, with a small letter from ten on. -/
def hexLower (d : Nat) : Char :=
  if d < 10 then Char.ofNat (48 + d) else Char.ofNat (87 + d)

/-- The last `width` hexadecimal digits of `n`, each written by `digit`. -/
def hexDigits (digit : Nat → Char) : (width n : Nat) → List Char
  | 0, _ => []
  | width + 1, n => hexDigits digit width (n / 16) ++ [digit (n % 16)]

@[simp] theorem length_hexDigits (digit : Nat → Char) (width n : Nat) :
    (hexDigits digit width n).length = width := by
  induction width generalizing n with
  | zero => rfl
  | succ width ih => simp [hexDigits, ih]

end GrammarConversion.Text
