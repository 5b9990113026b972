/-!
# Tables of code points

A property of characters is a list of closed ranges of code points, in ascending order. The tables
kept in this form are those of Unicode 17.0.
-/

namespace SparseFixture.Character

/-- Closed ranges of code points, the lower ones first. -/
abbrev Ranges := List (Nat × Nat)

/-- Whether a code point lies in one of the ranges. None that begins above it is looked at. -/
def Ranges.covers : Ranges → Nat → Bool
  | [], _ => false
  | (first, last) :: rs, n => first ≤ n && (n ≤ last || covers rs n)

end SparseFixture.Character
