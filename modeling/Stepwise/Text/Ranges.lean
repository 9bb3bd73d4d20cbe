/-! # Sets of characters -/

namespace Stepwise

abbrev CharRanges := List (Nat × Nat)

/-- The character lies in one of the ranges. -/
def CharRanges.has (ranges : CharRanges) (c : Char) : Bool :=
  ranges.any fun (low, high) => low ≤ c.toNat && c.toNat ≤ high

end Stepwise
