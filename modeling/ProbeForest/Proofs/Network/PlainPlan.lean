import ProbeForest.Proofs.Network.Check
import ProbeForest.Proofs.Network.Selection

/-!
# The plain planner

The plain planner keeps the affordable roads, sorts them by cost, and takes all
of them without an early end, over disjoint sets of all regions with region `n`
under the number `n - 1`.  Its sets and those of the planner over touched
regions differ in size, numbers, ranks and roots; what they share is the
partition of regions that both represent.  Both planners are therefore the same
function, errors included.

## Main results

* `Represents.take_of_rel`, `Represents.take_of_not_rel` — what one step does.
* `Represents.takeAll` — a whole run of the plain planner, in terms of the partition.
* `select_eq_foldlM` — the selection of a problem, computed without numbers.
* `plan_eq_planPlainly` — both planners agree on every problem.
-/

namespace ProbeForest.Network

open ProbeForest.Partition

variable {V : Finset Nat} {r : Setoid Nat} {road : Road} {roads : List Road}

/-! ## The planner -/

/-- Disjoint sets of all regions, with the roads built so far and their cost. -/
structure PlainState where
  groups : DisjointSet
  cost : Int
  built : List Road

namespace PlainState

/-- Unites the ends of a road, and builds it if that joined two groups. -/
def take (state : PlainState) (road : Road) : Except PlanError PlainState :=
  let (joined, groups) := state.groups.union (road.left - 1) (road.right - 1)
  if joined then
    match Cost.add? state.cost road.cost with
    | some cost => .ok ⟨groups, cost, state.built ++ [road]⟩
    | none => .error (.costOverflow summingRoads)
  else .ok ⟨groups, state.cost, state.built⟩

/-- The roads that were built and the number of groups that they leave. -/
def selection (state : PlainState) : Problem.Selection :=
  ⟨state.built, state.cost, state.groups.components⟩

end PlainState

/-- The plan without numbering and without an early end: the roads that cost less than the
fallback, cheapest first and in the order of the input where they cost the same, are all taken
over disjoint sets of all regions, and every group that is left is charged. -/
def Problem.planPlainly (p : Problem) : Except PlanError Plan := do
  p.checkRoads
  let affordable := p.roads.filter fun road => road.cost < p.fallback
  let ordered := affordable.mergeSort fun road other => road.cost ≤ other.cost
  let state ← ordered.foldlM PlainState.take ⟨DisjointSet.singletons p.regions, 0, []⟩
  p.charge state.selection

/-! ## A run of the plain planner -/

section Step

variable {groups : DisjointSet} {cost : Int} {built : List Road}
  (h : Represents groups (· - 1) V r) (hleft : road.left ∈ V) (hright : road.right ∈ V)

include h hleft hright

theorem Represents.take_of_rel (hr : r road.left road.right) :
    ∃ groups', PlainState.take ⟨groups, cost, built⟩ road = .ok ⟨groups', cost, built⟩ ∧
      Represents groups' (· - 1) V r := by
  obtain ⟨groups', hunion, hrep⟩ := h.union_of_rel hleft hright hr
  refine ⟨groups', ?_, hrep⟩
  simp only [PlainState.take, hunion, Bool.false_eq_true, if_false]

theorem Represents.take_of_not_rel (hr : ¬ r road.left road.right) :
    ∃ groups', Represents groups' (· - 1) V (road.join r) ∧
      PlainState.take ⟨groups, cost, built⟩ road =
        match Cost.add? cost road.cost with
        | some sum => .ok ⟨groups', sum, built ++ [road]⟩
        | none => .error (.costOverflow summingRoads) := by
  obtain ⟨groups', hunion, hrep⟩ := h.union_of_not_rel hleft hright hr
  refine ⟨groups', hrep, ?_⟩
  simp only [PlainState.take, hunion, if_true]

end Step

/-- Without an early end, too, exactly the roads are built that join two groups. -/
theorem Represents.takeAll (state : PlainState)
    (h : Represents state.groups (· - 1) V r) (hV : Within V roads) :
    (roads.foldlM PlainState.take state).map PlainState.selection =
      (addCosts state.cost (joining r roads)).map fun cost =>
        ⟨state.built ++ joining r roads, cost, classCount (joinAll r roads) V⟩ := by
  induction roads generalizing state r with
  | nil =>
      rw [List.foldlM_nil, joining, addCosts, List.append_nil, joinAll_nil]
      simp only [Except.map, pure, Except.pure, PlainState.selection, h.components_eq]
  | cons road roads ih =>
      obtain ⟨hleft, hright⟩ := hV road List.mem_cons_self
      have hV' : Within V roads := hV.sublist fun _ => List.mem_cons_of_mem road
      obtain ⟨groups, cost, built⟩ := state
      rw [List.foldlM_cons]
      by_cases hr : r road.left road.right
      · obtain ⟨groups', htake, hrep⟩ := h.take_of_rel hleft hright hr
        rw [htake, joining_cons_of_rel hr, joinAll_cons, join_of_rel hr]
        exact ih _ hrep hV'
      · obtain ⟨groups', hrep, htake⟩ := h.take_of_not_rel hleft hright hr
        rw [htake, joining_cons_of_not_rel hr]
        cases hadd : Cost.add? cost road.cost with
        | none =>
            rw [addCosts_cons_of_none hadd]
            rfl
        | some sum =>
            have hrest := ih ⟨groups', sum, built ++ [road]⟩ hrep hV'
            rw [List.append_assoc, List.singleton_append] at hrest
            rw [addCosts_cons_of_some hadd]
            exact hrest

/-- All regions start as singletons, region `n` under the number `n - 1`. -/
theorem represents_regions (regions : Nat) :
    Represents (DisjointSet.singletons regions) (· - 1) (regionSet regions) ⊥ := by
  have hstart : Represents (DisjointSet.singletons (regionSet regions).card) (· - 1)
      (regionSet regions) ⊥ := by
    refine represents_singletons (fun x hx => ?_) fun x hx y hy hxy => ?_
    · rw [card_regionSet]
      rw [regionSet, Finset.mem_Icc] at hx
      omega
    · rw [regionSet, Finset.mem_Icc] at hx hy
      omega
  rwa [card_regionSet] at hstart

/-- The selection of a problem, computed over all regions. -/
theorem select_eq_foldlM {p : Problem} (hp : Within (regionSet p.regions) p.roads) :
    p.select =
      (p.candidates.foldlM PlainState.take ⟨DisjointSet.singletons p.regions, 0, []⟩).map
        PlainState.selection := by
  have htake := Represents.takeAll ⟨DisjointSet.singletons p.regions, 0, []⟩
    (represents_regions p.regions) (within_candidates hp)
  rw [List.nil_append, ← connection_eq_joinAll] at htake
  exact (select_eq hp).trans htake.symm

/-- The roads that the plain planner sorts are the candidates. -/
theorem planPlainly_eq_candidates (p : Problem) :
    p.planPlainly = (do
      p.checkRoads
      let state ← p.candidates.foldlM PlainState.take ⟨DisjointSet.singletons p.regions, 0, []⟩
      p.charge state.selection) :=
  rfl

/-- The planner over touched regions, with its numbering and its early end, and the plain one
give the same plan or the same error for every problem. -/
theorem plan_eq_planPlainly (p : Problem) : p.plan = p.planPlainly := by
  rw [Problem.plan, planPlainly_eq_candidates]
  cases hcheck : p.checkRoads with
  | error e => rfl
  | ok _ =>
      rw [select_eq_foldlM (checkRoads_eq_ok_iff.mp hcheck)]
      cases p.candidates.foldlM PlainState.take
          ⟨DisjointSet.singletons p.regions, 0, []⟩ with
      | error e => rfl
      | ok state => rfl

end ProbeForest.Network
