/-!
# Sets of characters given by ranges

Properties of the Unicode standard are tables of ranges of code points.

* `CharSet`, `CharSet.contains`: a character is in the set exactly if some range holds its code
  point.
-/

set_option autoImplicit false

namespace LS8

/-- A set of characters, as a list of ranges of code points, both ends included. -/
structure CharSet where
  ranges : List (Nat × Nat)

namespace CharSet

/-- Membership of a character in a set. -/
def contains (set : CharSet) (c : Char) : Bool :=
  set.ranges.any fun range => range.1 ≤ c.toNat && c.toNat ≤ range.2

end CharSet

end LS8
