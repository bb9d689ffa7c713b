/-!
# Ranges of code points

Properties of characters are kept as lists of ranges, both ends included.
-/

namespace StageChain.Text

/-- Whether one of the ranges holds the character. -/
def inRanges (ranges : List (Nat × Nat)) (c : Char) : Bool :=
  ranges.any fun r => r.1 ≤ c.toNat && c.toNat ≤ r.2

end StageChain.Text
