import ProbeForest.Network.Road
import ProbeForest.Random.Uniform
import ProbeForest.Synthetic.Error

/-!
# Synthetic road networks

Roads with uniformly drawn ends and costs.  The ends of a road are drawn
independently, so that loops and parallel roads occur.
-/

namespace ProbeForest.Synthetic

open Network (Problem Road)
open ProbeForest.Random (Draw Generator)

/-- What a synthetic road network looks like. -/
structure RoadConfig where
  regions : Nat
  roadCount : Nat
  minCost : Int
  maxCost : Int
  fallback : Int
  seed : UInt64

namespace RoadConfig

/-- The settings describe roads. -/
def check (c : RoadConfig) : Except WorkloadError Unit :=
  if c.regions = 0 ∧ 0 < c.roadCount then .error .zeroRegions
  else if c.maxCost < c.minCost then .error (.invalidCostRange c.minCost c.maxCost)
  else .ok ()

/-- Draws a road: its left end, its right end and its cost. -/
def road (c : RoadConfig) : Draw Road := do
  let left ← Random.wordBetween .full 1 c.regions
  let right ← Random.wordBetween .full 1 c.regions
  let cost ← Random.signedBetween c.minCost c.maxCost
  return ⟨left, right, cost⟩

/-- Draws all roads. -/
def roads (c : RoadConfig) : Draw (List Road) :=
  (List.replicate c.roadCount ()).mapM fun _ => c.road

/-- The connection problem that settings describe; none if a draw never ends. -/
def generate (c : RoadConfig) : Except WorkloadError (Option Problem) := do
  c.check
  return (c.roads.run (Generator.ofSeed c.seed)).map fun (roads, _) =>
    ⟨c.regions, c.fallback, roads⟩

end RoadConfig

end ProbeForest.Synthetic
