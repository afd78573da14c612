import ProbeForest.Text.Integer

/-!
# Regions, roads and connection problems

Regions are numbered from one.  A road joins two regions at a cost; a cost is
a signed number of 64 bits.  A connection problem asks for the cheapest way to
serve every region, where each connected group of regions pays the fallback
cost once.
-/

namespace ProbeForest.Network

/-- The smallest cost that is too large to be written down. -/
def Cost.limit : Nat := Nat.pow 2 63

/-- The costs that can be written down. -/
def Cost.inRange (cost : Int) : Bool := -(Cost.limit : Int) ≤ cost && cost < Cost.limit

/-- A sum of costs, if it can be written down. -/
def Cost.add? (a b : Int) : Option Int :=
  if Cost.inRange (a + b) then some (a + b) else none

/-- A product of costs, if it can be written down. -/
def Cost.mul? (a b : Int) : Option Int :=
  if Cost.inRange (a * b) then some (a * b) else none

/-- A number of regions as a cost factor, if it can be written down. -/
def Cost.ofCount? (n : Nat) : Option Int :=
  if n < Cost.limit then some n else none

/-- A road between two regions. -/
structure Road where
  left : Nat
  right : Nat
  cost : Int
deriving DecidableEq, Repr

/-- Regions, the cost that a group left unconnected pays, and the roads on offer. -/
structure Problem where
  regions : Nat
  fallback : Int
  roads : List Road
deriving DecidableEq, Repr

end ProbeForest.Network
