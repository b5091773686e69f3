/-!
# Sets of code points

A character class is a list of closed intervals of code points, and membership is decided by
scanning the list (`has_iff`).
-/

namespace ReadGate.Text

/-- A set of code points, given as closed intervals in ascending order. -/
abbrev Ranges := List (Nat × Nat)

/-- Does some interval hold the code point? -/
def Ranges.has (ranges : Ranges) (code : Nat) : Bool :=
  ranges.any fun r => r.1 ≤ code && code ≤ r.2

/-- Is the character one of the set? -/
def Ranges.contains (ranges : Ranges) (c : Char) : Bool :=
  ranges.has c.toNat

theorem Ranges.has_iff {ranges : Ranges} {code : Nat} :
    ranges.has code = true ↔ ∃ r ∈ ranges, r.1 ≤ code ∧ code ≤ r.2 := by
  simp [Ranges.has]

end ReadGate.Text
