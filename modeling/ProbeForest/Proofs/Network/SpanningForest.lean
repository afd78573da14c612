import ProbeForest.Proofs.Network.Optimality

/-!
# The plan spans what can be afforded

A road can be afforded if it costs less than the fallback.  The roads of a
plan are a forest inside the affordable roads, and they connect as much as all
of these together.  The groups that pay the fallback are therefore the
components of the network of all regions with the affordable roads, untouched
regions included; and since every road of a forest takes one component away,
roads and groups make up the regions.

## Main results

* `connection_forest` — the forest of a problem connects what the affordable
  roads connect.
* `length_forest_add_groupsLeft` — roads and groups make up the regions.
* `plan_spanningForest` — both said of plans, with their costs.
-/

namespace ProbeForest.Network

open ProbeForest.Partition

variable {p : Problem} {roads more : List Road}

/-! ## The forest of a problem -/

/-- Connection does not depend on the order of the roads. -/
theorem connection_perm (h : roads.Perm more) : connection roads = connection more := by
  rw [connection_eq_joinAll, connection_eq_joinAll]
  exact joinAll_congr fun _ => h.mem_iff

theorem connection_candidates (p : Problem) : connection p.candidates = connection p.affordable :=
  connection_perm (candidates_perm p)

/-- The forest connects what all affordable roads connect. -/
theorem connection_forest (p : Problem) : connection p.forest = connection p.affordable := by
  rw [forest_connection, connection_candidates]

theorem groupsLeft_eq (p : Problem) :
    p.groupsLeft = classCount (connection p.affordable) (regionSet p.regions) := by
  rw [Problem.groupsLeft, connection_candidates]

/-- The roads of the forest and the groups that they leave make up the regions. -/
theorem length_forest_add_groupsLeft (hp : Within (regionSet p.regions) p.roads) :
    p.forest.length + p.groupsLeft = p.regions := by
  have hcount :=
    classCount_connection_add_length (forest_independent p) (within_of_le hp (forest_le p))
  rw [groupsLeft_eq, ← connection_forest, Nat.add_comm, hcount]

/-! ## Plans as forests -/

/-- All roads of a list, taken at their positions. -/
theorem roadsAt_univ (roads : List Road) : roadsAt roads Finset.univ = roads := by
  have hall : positions roads Finset.univ = List.finRange roads.length := by
    simp [positions]
  rw [roadsAt, hall, List.map_get_finRange]

theorem acyclic_univ_iff : Acyclic roads Finset.univ ↔ Independent ⊥ roads := by
  rw [acyclic_iff_independent, roadsAt_univ]

/-- A plan whose roads are a spanning forest of the affordable roads, with exact costs. -/
structure SpanningForest (p : Problem) (plan : Plan) : Prop where
  /-- The roads join regions of the problem. -/
  within : Within (regionSet p.regions) plan.roads
  /-- They are without cycles. -/
  acyclic : Acyclic plan.roads Finset.univ
  /-- They are affordable, and each is built at most as often as it is on offer. -/
  affordable : (plan.roads : Multiset Road) ≤ p.affordable
  /-- They join two regions exactly if the affordable roads do. -/
  joined : ∀ a b, connection plan.roads a b ↔ connection p.affordable a b
  /-- The groups that pay are the components of all regions with the affordable roads. -/
  remaining : plan.remaining = classCount (connection p.affordable) (regionSet p.regions)
  /-- Roads and groups make up the regions. -/
  count : plan.roads.length + plan.remaining = p.regions
  /-- The cost of the roads is their exact sum. -/
  roadsCost : plan.roadsCost = (plan.roads.map Road.cost).sum
  /-- The total adds one fallback for every group, exactly. -/
  total : plan.total = plan.roadsCost + plan.remaining * p.fallback

/-- Every plan is a spanning forest of the roads that cost less than the fallback. -/
theorem plan_spanningForest (p : Problem) (plan : Plan) (h : p.plan = .ok plan) :
    SpanningForest p plan := by
  obtain ⟨hp, rfl⟩ := plan_eq_ok h
  exact
    { within := within_of_le hp (forest_le p)
      acyclic := acyclic_univ_iff.mpr (forest_independent p)
      affordable := forest_le_affordable p
      joined := fun a b => by rw [connection_forest]
      remaining := groupsLeft_eq p
      count := length_forest_add_groupsLeft hp
      roadsCost := rfl
      total := Int.add_comm _ _ }

/-- Of four regions the last is reached by a dear road only, and stays alone. -/
theorem plan_spanningForest_crossing :
    crossing.plan = .ok ⟨[⟨2, 3, 4⟩, ⟨1, 2, 5⟩], 9, 2, 10, 29⟩ ∧
      SpanningForest crossing ⟨[⟨2, 3, 4⟩, ⟨1, 2, 5⟩], 9, 2, 10, 29⟩ :=
  ⟨plan_crossing, plan_spanningForest crossing _ plan_crossing⟩

end ProbeForest.Network
