import ProbeForest.DisjointSet
import ProbeForest.Network.Road
import Std.Data.HashMap

/-!
# The cheapest connection plan

The plan is a minimum spanning forest of the roads that cost less than the
fallback: candidates are taken in ascending order of cost, ties in the order
in which they were given, and a road is built when it joins two groups that
were not connected before.  Every group that is left pays the fallback once.

Disjoint sets are kept only over the regions that a candidate touches,
numbered in the order of their first touch.  All other regions stay groups of
their own, and are only counted.  Building stops as soon as at most one group
is left.
-/

namespace ProbeForest.Network

/-- What is done while the costs of roads are added up. -/
def summingRoads : String := "summing road costs"

/-- What is done while the groups that are left are charged. -/
def chargingFallback : String := "charging fallback costs"

/-- Why there is no plan. -/
inductive PlanError where
  /-- The road at position `road` (counted from zero) names a region that does not exist. -/
  | invalidRegion (road region regions : Nat)
  /-- A cost left the range of costs; `stage` tells what was being done. -/
  | costOverflow (stage : String)
deriving DecidableEq, Repr

namespace PlanError

def message : PlanError → String
  | invalidRegion road region regions =>
    s!"road {road} references region {region}, but regions are numbered 1..={regions}"
  | costOverflow stage => s!"connection cost overflowed while {stage}"

/-- The stable name of the cause. -/
def code : PlanError → String
  | invalidRegion _ _ _ => "REGION_INVALID_REGION"
  | costOverflow _ => "REGION_COST_OVERFLOW"

end PlanError

/-- The cheapest way to serve every region. -/
structure Plan where
  /-- The roads to build, in the order in which they were accepted. -/
  roads : List Road
  roadsCost : Int
  /-- The number of groups that pay the fallback. -/
  remaining : Nat
  fallback : Int
  total : Int
deriving DecidableEq, Repr

/-! ## Numbering regions by first touch -/

/-- Numbers given to regions: each new region takes the next one. -/
abbrev Numbering := Std.HashMap Nat Nat

/-- A candidate road with the numbers of its ends. -/
structure Edge where
  left : Nat
  right : Nat
  road : Road
deriving DecidableEq, Repr

namespace Numbering

/-- The number of a region, which becomes the next free one if it has none. -/
def touch (region : Nat) : StateM Numbering Nat := do
  let numbering ← get
  match numbering[region]? with
  | some number => return number
  | none =>
    set (numbering.insert region numbering.size)
    return numbering.size

/-- Numbers the ends of a road, the left one first. -/
def edge (road : Road) : StateM Numbering Edge := do
  let left ← touch road.left
  let right ← touch road.right
  return ⟨left, right, road⟩

/-- Numbers the ends of roads, in order, starting without numbers. -/
def edges (roads : List Road) : List Edge × Numbering :=
  (roads.mapM edge).run ∅

end Numbering

/-! ## Building -/

/-- Roads built so far, last one first, with their cost and the groups they leave. -/
structure Construction where
  built : List Road
  cost : Int
  groups : DisjointSet
deriving Repr

namespace Construction

/-- Nothing is built. -/
def start (touched : Nat) : Construction := ⟨[], 0, DisjointSet.singletons touched⟩

/-- Builds a road if it joins two groups. -/
def step : Construction → (edge : Edge) → Except PlanError Construction
  | ⟨built, cost, groups⟩, edge =>
    match groups.union edge.left edge.right with
    | (false, groups) => .ok ⟨built, cost, groups⟩
    | (true, groups) =>
      match Cost.add? cost edge.road.cost with
      | some cost => .ok ⟨edge.road :: built, cost, groups⟩
      | none => .error (.costOverflow summingRoads)

/-- Takes the edges in order until at most one group is left. -/
def run (untouched : Nat) : Construction → List Edge → Except PlanError Construction
  | c, [] => .ok c
  | c, edge :: edges =>
    if untouched + c.groups.components ≤ 1 then .ok c
    else do run untouched (← c.step edge) edges

end Construction

/-! ## Planning -/

namespace Problem

/-- The first region of a road, left before right, that does not exist. -/
def strayRegion? (p : Problem) (road : Road) : Option Nat :=
  [road.left, road.right].find? fun region => region == 0 || p.regions < region

/-- Every road joins regions that exist. -/
def checkRoads (p : Problem) : Except PlanError Unit :=
  go 0 p.roads
where
  go (position : Nat) : List Road → Except PlanError Unit
    | [] => .ok ()
    | road :: roads =>
      match p.strayRegion? road with
      | some region => .error (.invalidRegion position region p.regions)
      | none => go (position + 1) roads

/-- The roads cheaper than the fallback, cheapest first. -/
def candidates (p : Problem) : List Road :=
  (p.roads.filter fun road => road.cost < p.fallback).mergeSort fun a b => a.cost ≤ b.cost

/-- Roads chosen for a problem, and the number of groups they leave. -/
structure Selection where
  roads : List Road
  cost : Int
  remaining : Nat
deriving DecidableEq, Repr

/-- Chooses the roads to build. -/
def select (p : Problem) : Except PlanError Selection := do
  let (edges, numbering) := Numbering.edges p.candidates
  let untouched := p.regions - numbering.size
  let c ← Construction.run untouched (Construction.start numbering.size) edges
  return ⟨c.built.reverse, c.cost, untouched + c.groups.components⟩

/-- Charges the fallback to every group that is left. -/
def charge (p : Problem) (chosen : Selection) : Except PlanError Plan :=
  let total := do
    let groups ← Cost.ofCount? chosen.remaining
    let charged ← Cost.mul? groups p.fallback
    Cost.add? charged chosen.cost
  match total with
  | some total => .ok ⟨chosen.roads, chosen.cost, chosen.remaining, p.fallback, total⟩
  | none => .error (.costOverflow chargingFallback)

/-- The cheapest way to serve every region. -/
def plan (p : Problem) : Except PlanError Plan := do
  p.checkRoads
  let chosen ← p.select
  p.charge chosen

end Problem

end ProbeForest.Network
