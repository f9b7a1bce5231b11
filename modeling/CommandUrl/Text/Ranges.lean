/-!
# Sets of characters

A property of characters is kept as the list of the intervals of code points
that have it, in ascending order.
-/

namespace CommandUrl.Text

/-- Intervals of code points, first and last included. -/
abbrev Ranges := List (Nat × Nat)

/-- The code point lies in one of the intervals. -/
def Ranges.includes (ranges : Ranges) (code : Nat) : Bool :=
  ranges.any fun range => range.1 ≤ code && code ≤ range.2

/-- The character lies in one of the intervals. -/
def Ranges.contains (ranges : Ranges) (c : Char) : Bool :=
  ranges.includes c.toNat

theorem Ranges.includes_iff {ranges : Ranges} {code : Nat} :
    ranges.includes code ↔ ∃ range ∈ ranges, range.1 ≤ code ∧ code ≤ range.2 := by
  simp [Ranges.includes]

end CommandUrl.Text
