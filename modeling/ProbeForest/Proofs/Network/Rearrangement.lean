import ProbeForest.Proofs.Network.SpanningForest

/-!
# The order and the direction of the roads

Roads of equal cost compete, and which of them is built depends on the order
in which they are on offer.  What is paid does not.  The roads that are built
among those up to a given cost are a forest that connects as much as all roads
up to that cost do, so that their number is told by the partition of the
regions alone.  Two lists of ascending costs with equally many members up to
every bound are equal; so the costs are the same in the order in which they
are paid, and every checked sum ends alike.

## Main results

* `filter_joining` — the roads that are picked up to a cost are those picked
  from the roads up to that cost.
* `map_cost_joining_eq` — lists that connect alike up to every cost have the
  same costs of picked roads.
* `plan_sameOutcome` — problems with rearranged roads have the same outcome.
-/

namespace ProbeForest.Network

open ProbeForest.Partition

variable {r : Setoid Nat} {V : Finset Nat} {road other : Road} {roads more : List Road}
  {p : Problem}

/-! ## Rearranged roads -/

/-- The road from its other end. -/
def Road.reverse (road : Road) : Road := ⟨road.right, road.left, road.cost⟩

/-- The same road, from either end. -/
def Road.Same (road other : Road) : Prop := other = road ∨ other = road.reverse

/-- The same roads in any order, each from either end. -/
def Rearranged (roads more : List Road) : Prop :=
  ∃ reordered, roads.Perm reordered ∧ List.Forall₂ Road.Same reordered more

/-- Every road of the first list is a road of the second, from either end. -/
def CoveredBy (roads more : List Road) : Prop :=
  ∀ road ∈ roads, ∃ other ∈ more, Road.Same road other

theorem Road.Same.symm (h : Road.Same road other) : Road.Same other road := by
  rcases h with rfl | rfl
  · exact Or.inl rfl
  · exact Or.inr rfl

theorem Road.Same.cost_eq (h : Road.Same road other) : other.cost = road.cost := by
  rcases h with rfl | rfl <;> rfl

theorem Road.Same.rel (h : Road.Same road other) (hr : r other.left other.right) :
    r road.left road.right := by
  rcases h with rfl | rfl
  · exact hr
  · exact r.symm' hr

theorem coveredBy_of_forall₂ (h : List.Forall₂ Road.Same roads more) : CoveredBy roads more := by
  induction h with
  | nil =>
      intro road hroad
      cases hroad
  | @cons first first' rest rest' hsame _ ih =>
      intro road hroad
      rcases List.mem_cons.mp hroad with rfl | hroad
      · exact ⟨first', List.mem_cons_self, hsame⟩
      · obtain ⟨other, hother, h⟩ := ih road hroad
        exact ⟨other, List.mem_cons_of_mem first' hother, h⟩

/-- Rearranged roads cover each other. -/
theorem Rearranged.coveredBy (h : Rearranged roads more) :
    CoveredBy roads more ∧ CoveredBy more roads := by
  obtain ⟨reordered, hperm, hsame⟩ := h
  have hcover := coveredBy_of_forall₂ hsame
  have hcover' : CoveredBy more reordered :=
    coveredBy_of_forall₂ (hsame.imp fun _ _ => Road.Same.symm).flip
  constructor
  · intro road hroad
    exact hcover road (hperm.mem_iff.mp hroad)
  · intro road hroad
    obtain ⟨other, hother, h⟩ := hcover' road hroad
    exact ⟨other, hperm.mem_iff.mpr hother, h⟩

namespace CoveredBy

theorem within (h : CoveredBy roads more) (hV : Within V more) : Within V roads := by
  intro road hroad
  obtain ⟨other, hother, rfl | rfl⟩ := h road hroad
  · exact hV _ hother
  · exact (hV _ hother).symm

theorem filter (h : CoveredBy roads more) (keep : Int → Bool) :
    CoveredBy (roads.filter fun road => keep road.cost) (more.filter fun road => keep road.cost) := by
  intro road hroad
  obtain ⟨hroad, hkeep⟩ := List.mem_filter.mp hroad
  obtain ⟨other, hother, hsame⟩ := h road hroad
  exact ⟨other, List.mem_filter.mpr ⟨hother, by rwa [hsame.cost_eq]⟩, hsame⟩

/-- More roads connect more, whichever of their ends is named first. -/
theorem joinAll_le (h : CoveredBy roads more) (r : Setoid Nat) :
    joinAll r roads ≤ joinAll r more := by
  refine joinAll_le_iff.mpr ⟨(joinAll_le_iff.mp (le_refl _)).1, fun road hroad => ?_⟩
  obtain ⟨other, hother, hsame⟩ := h road hroad
  exact hsame.rel (joinAll_rel_of_mem hother)

end CoveredBy

theorem joinAll_eq_of_coveredBy (h : CoveredBy roads more) (h' : CoveredBy more roads) :
    joinAll r roads = joinAll r more :=
  le_antisymm (h.joinAll_le r) (h'.joinAll_le r)

/-! ## The costs of picked roads -/

/-- The roads that are picked up to a cost are those picked from the roads up to that cost. -/
theorem filter_joining (hsorted : roads.Pairwise fun road other => road.cost ≤ other.cost)
    (r : Setoid Nat) (bound : Int) :
    (joining r roads).filter (fun road => road.cost ≤ bound) =
      joining r (roads.filter fun road => road.cost ≤ bound) := by
  induction roads generalizing r with
  | nil => rfl
  | cons first rest ih =>
      obtain ⟨hfirst, hrest⟩ := List.pairwise_cons.mp hsorted
      by_cases hcost : first.cost ≤ bound
      · rw [List.filter_cons_of_pos (by simpa using hcost)]
        by_cases hr : r first.left first.right
        · rw [joining_cons_of_rel hr, joining_cons_of_rel hr, ih hrest]
        · rw [joining_cons_of_not_rel hr, joining_cons_of_not_rel hr,
            List.filter_cons_of_pos (by simpa using hcost), ih hrest]
      · -- All roads from here on cost more.
        have hdear : ∀ road ∈ first :: rest, ¬ road.cost ≤ bound := by
          intro road hroad
          rcases List.mem_cons.mp hroad with rfl | hroad
          · exact hcost
          · have := hfirst road hroad
            omega
        have hnone : (first :: rest).filter (fun road => road.cost ≤ bound) = [] := by
          simpa using hdear
        have hnone' : (joining r (first :: rest)).filter (fun road => road.cost ≤ bound) = [] := by
          simpa using fun road hroad => hdear road ((joining_sublist r _).subset hroad)
        rw [hnone, hnone']
        rfl

/-- The number of roads that are picked up to a cost is told by what the roads up to that cost
connect. -/
theorem countP_joining_add_classCount
    (hsorted : roads.Pairwise fun road other => road.cost ≤ other.cost) (hV : Within V roads)
    (r : Setoid Nat) (bound : Int) :
    (joining r roads).countP (fun road => road.cost ≤ bound) +
        classCount (joinAll r (roads.filter fun road => road.cost ≤ bound)) V =
      classCount r V := by
  have hcheap : Within V (roads.filter fun road => road.cost ≤ bound) :=
    hV.sublist fun _ hroad => List.mem_of_mem_filter hroad
  rw [List.countP_eq_length_filter, filter_joining hsorted, ← joinAll_joining, Nat.add_comm]
  exact (joining_independent r _).classCount_add_length
    (hcheap.sublist fun _ hroad => (joining_sublist r _).subset hroad)

theorem countP_le_eq_add_count (costs : List Int) (bound : Int) :
    costs.countP (· ≤ bound) = costs.countP (· ≤ bound - 1) + costs.count bound := by
  induction costs with
  | nil => rfl
  | cons cost costs ih =>
      simp only [List.countP_cons, List.count_cons, decide_eq_true_eq, beq_iff_eq, ih]
      split <;> split <;> split <;> omega

/-- Two lists of ascending costs are equal if they have equally many members up to every bound. -/
theorem eq_of_countP_le {costs costs' : List Int} (hsorted : costs.Pairwise (· ≤ ·))
    (hsorted' : costs'.Pairwise (· ≤ ·))
    (h : ∀ bound, costs.countP (· ≤ bound) = costs'.countP (· ≤ bound)) : costs = costs' := by
  refine List.Perm.eq_of_pairwise' hsorted hsorted' (List.perm_iff_count.mpr fun bound => ?_)
  have hbound := h bound
  rw [countP_le_eq_add_count costs, countP_le_eq_add_count costs', h (bound - 1)] at hbound
  exact Nat.add_left_cancel hbound

theorem map_cost_joining_sorted
    (hsorted : roads.Pairwise fun road other => road.cost ≤ other.cost) (r : Setoid Nat) :
    ((joining r roads).map Road.cost).Pairwise (· ≤ ·) :=
  List.pairwise_map.mpr (hsorted.sublist (joining_sublist r roads))

/-- Roads that connect alike up to every cost have the same costs of picked roads. -/
theorem map_cost_joining_eq
    (hsorted : roads.Pairwise fun road other => road.cost ≤ other.cost)
    (hsorted' : more.Pairwise fun road other => road.cost ≤ other.cost)
    (hV : Within V roads) (hV' : Within V more)
    (h : ∀ bound : Int, joinAll r (roads.filter fun road => road.cost ≤ bound) =
      joinAll r (more.filter fun road => road.cost ≤ bound)) :
    (joining r roads).map Road.cost = (joining r more).map Road.cost := by
  refine eq_of_countP_le (map_cost_joining_sorted hsorted r) (map_cost_joining_sorted hsorted' r)
    fun bound => ?_
  have hcount := countP_joining_add_classCount hsorted hV r bound
  have hcount' := countP_joining_add_classCount hsorted' hV' r bound
  rw [← h bound, ← hcount] at hcount'
  rw [List.countP_map, List.countP_map]
  exact (Nat.add_right_cancel hcount').symm

/-! ## Outcomes -/

/-- Two outcomes that differ at most in which roads of equal cost are built, or in which road is
blamed for a region that does not exist. -/
inductive SameOutcome : Except PlanError Plan → Except PlanError Plan → Prop
  | invalidRegion (regions road region road' region' : Nat) :
      SameOutcome (.error (.invalidRegion road region regions))
        (.error (.invalidRegion road' region' regions))
  | costOverflow (stage : String) :
      SameOutcome (.error (.costOverflow stage)) (.error (.costOverflow stage))
  | planned {plan plan' : Plan} (costs : plan.roads.map Road.cost = plan'.roads.map Road.cost)
      (roadsCost : plan.roadsCost = plan'.roadsCost) (remaining : plan.remaining = plan'.remaining)
      (total : plan.total = plan'.total) : SameOutcome (.ok plan) (.ok plan')

/-! ## Problems with rearranged roads -/

/-- A problem with other roads on offer. -/
def Problem.withRoads (p : Problem) (roads : List Road) : Problem := { p with roads := roads }

theorem CoveredBy.candidates (h : CoveredBy p.roads more) :
    CoveredBy p.candidates (p.withRoads more).candidates := by
  intro road hroad
  obtain ⟨hroad, hcost⟩ := mem_candidates.mp hroad
  obtain ⟨other, hother, hsame⟩ := h road hroad
  refine ⟨other, mem_candidates.mpr ⟨hother, ?_⟩, hsame⟩
  rw [hsame.cost_eq]
  exact hcost

section Rearranging

variable (h : CoveredBy p.roads more) (h' : CoveredBy more p.roads)

include h h'

theorem coveredBy_candidates :
    CoveredBy p.candidates (p.withRoads more).candidates ∧
      CoveredBy (p.withRoads more).candidates p.candidates :=
  ⟨h.candidates, CoveredBy.candidates (p := p.withRoads more) h'⟩

/-- The same costs are paid, in the same order. -/
theorem map_cost_forest_eq (hp : Within (regionSet p.regions) p.roads) :
    p.forest.map Road.cost = (p.withRoads more).forest.map Road.cost := by
  obtain ⟨hcover, hcover'⟩ := coveredBy_candidates h h'
  have hwithin := within_candidates hp
  exact map_cost_joining_eq (candidates_sorted p) (candidates_sorted _) hwithin
    (hcover'.within hwithin) fun bound =>
      joinAll_eq_of_coveredBy (hcover.filter (· ≤ bound)) (hcover'.filter (· ≤ bound))

/-- The same number of groups is left. -/
theorem groupsLeft_withRoads : p.groupsLeft = (p.withRoads more).groupsLeft := by
  obtain ⟨hcover, hcover'⟩ := coveredBy_candidates h h'
  rw [Problem.groupsLeft, Problem.groupsLeft, connection_eq_joinAll, connection_eq_joinAll,
    joinAll_eq_of_coveredBy hcover hcover']
  rfl

end Rearranging

/-- Charging looks at costs and groups only. -/
theorem charge_sameOutcome {chosen chosen' : Problem.Selection}
    (hcosts : chosen.roads.map Road.cost = chosen'.roads.map Road.cost)
    (hcost : chosen.cost = chosen'.cost) (hremaining : chosen.remaining = chosen'.remaining) :
    SameOutcome (p.charge chosen) ((p.withRoads more).charge chosen') := by
  have htotal : p.total? chosen = (p.withRoads more).total? chosen' := by
    rw [Problem.total?, Problem.total?, hcost, hremaining]
    rfl
  cases hsum : p.total? chosen with
  | none =>
      rw [charge_of_none hsum, charge_of_none (htotal ▸ hsum)]
      exact SameOutcome.costOverflow chargingFallback
  | some total =>
      rw [charge_of_some hsum, charge_of_some (htotal ▸ hsum)]
      exact SameOutcome.planned hcosts hcost hremaining rfl

/-- The outcome of a problem depends neither on the order in which its roads are on offer, nor on
which end of a road is named first: it is no plan for the same kind of reason, or a plan that pays
the same costs in the same order, leaves as many groups and has the same total. -/
theorem plan_sameOutcome (p : Problem) (more : List Road) (h : Rearranged p.roads more) :
    SameOutcome p.plan (p.withRoads more).plan := by
  obtain ⟨hcover, hcover'⟩ := h.coveredBy
  by_cases hp : Within (regionSet p.regions) p.roads
  · have hp' : Within (regionSet (p.withRoads more).regions) (p.withRoads more).roads :=
      hcover'.within hp
    have hcosts := map_cost_forest_eq hcover hcover' hp
    rw [plan_of_within hp, plan_of_within hp', ← addCosts_congr hcosts]
    cases hsum : addCosts 0 p.forest with
    | error e =>
        rw [addCosts_eq_error hsum]
        exact SameOutcome.costOverflow summingRoads
    | ok cost => exact charge_sameOutcome hcosts rfl (groupsLeft_withRoads hcover hcover')
  · have hp' : ¬ Within (regionSet (p.withRoads more).regions) (p.withRoads more).roads :=
      fun hp' => hp (hcover.within hp')
    obtain ⟨road, region, heq⟩ := plan_of_not_within hp
    obtain ⟨road', region', heq'⟩ := plan_of_not_within hp'
    rw [heq, heq']
    exact SameOutcome.invalidRegion p.regions road region road' region'

/-- Three roads of one cost around three regions: every two of them make a plan. -/
def triangle : Problem where
  regions := 3
  fallback := 10
  roads := [⟨1, 2, 5⟩, ⟨2, 3, 5⟩, ⟨3, 1, 5⟩]

/-- The roads are taken the other way around, and another one closes the cycle. -/
theorem plan_sameOutcome_triangle :
    Rearranged triangle.roads [⟨1, 3, 5⟩, ⟨3, 2, 5⟩, ⟨1, 2, 5⟩] ∧
      SameOutcome triangle.plan
        (triangle.withRoads [⟨1, 3, 5⟩, ⟨3, 2, 5⟩, ⟨1, 2, 5⟩]).plan := by
  have h : Rearranged triangle.roads [⟨1, 3, 5⟩, ⟨3, 2, 5⟩, ⟨1, 2, 5⟩] := by
    refine ⟨[⟨3, 1, 5⟩, ⟨2, 3, 5⟩, ⟨1, 2, 5⟩], by decide, ?_⟩
    refine .cons (Or.inr rfl) (.cons (Or.inr rfl) (.cons (Or.inl rfl) .nil))
  exact ⟨h, plan_sameOutcome triangle _ h⟩

end ProbeForest.Network
