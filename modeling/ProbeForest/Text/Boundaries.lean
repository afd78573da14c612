/-!
# Sets of characters given by their boundaries

A set of characters with few gaps is given by the code points at which
membership changes, in ascending order: the first begins the set, the next
one ends its first run, and so on.
-/

namespace ProbeForest.Text

/-- The character lies in the set with the given boundaries: an odd number of
them has been passed. -/
def isWithin (boundaries : Array Nat) (c : Char) : Bool :=
  boundaries.countP (· ≤ c.toNat) % 2 == 1

end ProbeForest.Text
