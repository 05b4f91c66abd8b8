/-!
# Sets of characters given by code ranges
-/

namespace Linework.Text

/-- A set of characters as inclusive ranges of their codes. -/
abbrev Ranges := Array (Nat × Nat)

/-- Whether a range of the set holds the character's code. -/
def Ranges.covers (ranges : Ranges) (c : Char) : Bool :=
  ranges.any fun (low, high) => low ≤ c.toNat && c.toNat ≤ high

end Linework.Text
