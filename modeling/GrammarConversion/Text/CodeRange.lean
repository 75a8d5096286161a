/-!
# Sets of characters as ranges of code points

A property of characters is given by the ranges of the code points that have it.  `covers` asks
whether a character lies in one of them; `covers_iff` says so without the search.
-/

namespace GrammarConversion.Text

/-- Whether the code point of `c` lies in one of `ranges`, whose ends both belong to them. -/
def covers (ranges : List (Nat × Nat)) (c : Char) : Bool :=
  ranges.any fun range => decide (range.1 ≤ c.toNat) && decide (c.toNat ≤ range.2)

theorem covers_iff {ranges : List (Nat × Nat)} {c : Char} :
    covers ranges c = true ↔ ∃ range ∈ ranges, range.1 ≤ c.toNat ∧ c.toNat ≤ range.2 := by
  simp [covers]

end GrammarConversion.Text
