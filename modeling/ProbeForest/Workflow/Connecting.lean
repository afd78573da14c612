import ProbeForest.Workflow.Described

/-!
# Reading and planning connections under watch

The span of a plan carries the size of the problem; its events tell how many
roads are candidates and what the plan costs.  The number of roads built is
measured as soon as they are chosen, even if their plan turns out to cost more
than can be written down.
-/

namespace ProbeForest.Workflow

open Journal (emit meter span)
open Network (InputError Plan PlanError Problem)

/-- The target of diagnostics about plans. -/
def planTarget : String := "katsuo_core::regions"

/-- The target of diagnostics about problem texts. -/
def problemTarget : String := "katsuo_core::regions::input"

/-- Reads a connection problem. -/
def readProblem (s : Text.Stream) : FallibleRecording InputError Problem :=
  span { name := "regions.parse", target := problemTarget, fields := [] }
    (Problem.ofStream s : Except InputError Problem)

/-- The cheapest way to serve every region. -/
def plan (p : Problem) : FallibleRecording PlanError Plan :=
  span
    { name := "regions.plan"
      target := planTarget
      fields :=
        [("region_count", some (.natural p.regions)), ("fallback_cost", some (.integer p.fallback)),
          ("road_count", some (.natural p.roads.length))] }
    do
      p.checkRoads
      let candidates := p.candidates.length
      emit .debug planTarget "filtered roads below fallback cost"
        [("candidates", .natural candidates),
          ("discarded", .natural (p.roads.length - candidates))]
      let chosen ← p.select
      meter "region_roads_accepted" [] (.count chosen.roads.length)
      let plan ← p.charge chosen
      emit .info planTarget "connection plan ready"
        [("roads_built", .natural plan.roads.length), ("roads_cost", .integer plan.roadsCost),
          ("remaining_components", .natural plan.remaining), ("total_cost", .integer plan.total)]
      return plan

end ProbeForest.Workflow
