/-!
# Ranges of code points

A property of characters is tabulated by the ranges of code points that have it, ends included.
-/

set_option autoImplicit false

namespace InputTap.Text

/-- The character lies in one of the ranges. -/
def inRanges (ranges : List (Nat × Nat)) (c : Char) : Bool :=
  ranges.any fun r => r.1 ≤ c.toNat && c.toNat ≤ r.2

end InputTap.Text
