/-!
# Ranges of characters

Properties of characters are given as the ranges of code points that have them, in ascending
order, both ends included.
-/

namespace BidArchive.Text

/-- Ranges of code points, first and last. -/
abbrev Ranges := List (Nat × Nat)

/-- The character lies in one of the ranges. -/
def Ranges.has (ranges : Ranges) (c : Char) : Bool :=
  ranges.any fun r => decide (r.1 ≤ c.toNat) && decide (c.toNat ≤ r.2)

end BidArchive.Text
