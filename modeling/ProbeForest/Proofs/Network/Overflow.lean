import ProbeForest.Proofs.Network.Turns

/-!
# What planning comes to

Every sum of the planner is checked, and the first one that cannot be written
down ends the planning.  Costs are added up cheapest first, so the running sum
falls as long as costs are negative, and rises from there on.  It leaves the
range below exactly if all negative costs together do, and above exactly if
the whole sum does; no sum in between has to be looked at.

Together with the check of the roads this leaves four outcomes, each with a
condition that does not mention the planner.  The forest whose costs are summed
is told from the roads as well: they have their turns by cost and position, and
each is picked that joins two groups.

## Main results

* `addCosts_eq_error_iff` — when a running sum of ascending costs overflows.
* `charge_of_overflows`, `charge_of_not_overflows` — what charging the groups comes to.
* `plan_settled` — the outcome of every problem.
-/

namespace ProbeForest.Network

open ProbeForest.Partition

variable {p : Problem} {roads : List Road} {road : Road} {cost : Int}

/-! ## The range of costs -/

theorem inRange_iff {cost : Int} :
    Cost.inRange cost ↔ -(Cost.limit : Int) ≤ cost ∧ cost < Cost.limit := by
  simp [Cost.inRange]

theorem add?_eq_none_iff {a b : Int} : Cost.add? a b = none ↔ ¬ Cost.inRange (a + b) := by
  simp [Cost.add?]

/-! ## Adding up ascending costs -/

/-- The negative costs of a list of roads, added up. -/
def debt (roads : List Road) : Int := ((roads.map Road.cost).filter (· < 0)).sum

@[simp] theorem debt_nil : debt [] = 0 := rfl

theorem debt_cons_of_neg (h : road.cost < 0) : debt (road :: roads) = road.cost + debt roads := by
  simp [debt, h]

theorem debt_cons_of_nonneg (h : 0 ≤ road.cost) : debt (road :: roads) = debt roads := by
  simp [debt, h]

theorem debt_nonpos (roads : List Road) : debt roads ≤ 0 := by
  induction roads with
  | nil => exact le_refl 0
  | cons road roads ih =>
      rcases lt_or_ge road.cost 0 with h | h
      · rw [debt_cons_of_neg h]
        omega
      · rwa [debt_cons_of_nonneg h]

theorem debt_eq_zero (h : ∀ road ∈ roads, 0 ≤ road.cost) : debt roads = 0 := by
  induction roads with
  | nil => rfl
  | cons road roads ih =>
      rw [debt_cons_of_nonneg (h road List.mem_cons_self)]
      exact ih fun other hother => h other (List.mem_cons_of_mem road hother)

theorem sum_cost_nonneg (h : ∀ road ∈ roads, 0 ≤ road.cost) : 0 ≤ (roads.map Road.cost).sum := by
  apply List.sum_nonneg
  intro cost hcost
  obtain ⟨road, hroad, rfl⟩ := List.mem_map.mp hcost
  exact h road hroad

/-- A running sum of ascending costs overflows exactly if it does at its lowest point, where all
negative costs have been added, or at its end. -/
theorem addCosts_eq_error_iff (hsorted : roads.Pairwise fun road other => road.cost ≤ other.cost)
    (hcost : Cost.inRange cost) :
    addCosts cost roads = .error (.costOverflow summingRoads) ↔
      cost + debt roads < -(Cost.limit : Int) ∨
        Cost.limit ≤ cost + (roads.map Road.cost).sum := by
  induction roads generalizing cost with
  | nil =>
      rw [inRange_iff] at hcost
      simp [addCosts]
      omega
  | cons road rest ih =>
      obtain ⟨hfirst, hrest⟩ := List.pairwise_cons.mp hsorted
      rw [List.map_cons, List.sum_cons]
      have hcost' := inRange_iff.mp hcost
      have hlow := debt_nonpos rest
      cases hadd : Cost.add? cost road.cost with
      | none =>
          rw [addCosts_cons_of_none hadd]
          rw [add?_eq_none_iff, inRange_iff] at hadd
          refine iff_of_true rfl ?_
          rcases lt_or_ge road.cost 0 with hneg | hpos
          · rw [debt_cons_of_neg hneg]
            omega
          · have hhigh := sum_cost_nonneg fun other hother => hpos.trans (hfirst other hother)
            omega
      | some next =>
          rw [addCosts_cons_of_some hadd]
          obtain ⟨hnext, rfl⟩ := add?_eq_some_iff.mp hadd
          rw [ih hrest hnext]
          rw [inRange_iff] at hnext
          rcases lt_or_ge road.cost 0 with hneg | hpos
          · rw [debt_cons_of_neg hneg, add_assoc, add_assoc]
          · -- From here on the sum only rises.
            rw [debt_cons_of_nonneg hpos,
              debt_eq_zero fun other hother => hpos.trans (hfirst other hother)]
            omega

/-! ## Charging -/

/-- The groups cannot be charged: they are too many to be counted, or their charge, or the total,
cannot be written down. -/
def Problem.ChargeOverflows (p : Problem) (chosen : Problem.Selection) : Prop :=
  Cost.limit ≤ chosen.remaining ∨ ¬ Cost.inRange (chosen.remaining * p.fallback) ∨
    ¬ Cost.inRange (chosen.remaining * p.fallback + chosen.cost)

/-- A total fails at its count, at its product or at its sum. -/
theorem total?_eq_none_iff {chosen : Problem.Selection} :
    p.total? chosen = none ↔ p.ChargeOverflows chosen := by
  unfold Problem.total? Problem.ChargeOverflows Cost.ofCount? Cost.mul? Cost.add?
  by_cases hcount : chosen.remaining < Cost.limit
  · by_cases hmul : Cost.inRange (chosen.remaining * p.fallback)
    · simp [hcount, hmul]
    · simp [hcount, hmul]
  · simp [hcount]
    omega

theorem charge_of_overflows {chosen : Problem.Selection} (h : p.ChargeOverflows chosen) :
    p.charge chosen = .error (.costOverflow chargingFallback) :=
  charge_of_none (total?_eq_none_iff.mpr h)

theorem charge_of_not_overflows {chosen : Problem.Selection} (h : ¬ p.ChargeOverflows chosen) :
    p.charge chosen = .ok ⟨chosen.roads, chosen.cost, chosen.remaining, p.fallback,
      chosen.remaining * p.fallback + chosen.cost⟩ := by
  cases htotal : p.total? chosen with
  | none => exact absurd (total?_eq_none_iff.mp htotal) h
  | some total => rw [charge_of_some htotal, total?_eq_some htotal]

/-! ## Outcomes -/

/-- Adding up the costs of the forest overflows: the negative ones do, or all together. -/
def Problem.SumOverflows (p : Problem) : Prop :=
  debt p.forest < -(Cost.limit : Int) ∨ Cost.limit ≤ (p.forest.map Road.cost).sum

/-- The forest of a problem with its exact cost and the groups that it leaves. -/
noncomputable def Problem.exact (p : Problem) : Problem.Selection :=
  ⟨p.forest, (p.forest.map Road.cost).sum, p.groupsLeft⟩

theorem forest_sorted (p : Problem) :
    p.forest.Pairwise fun road other => road.cost ≤ other.cost :=
  (candidates_sorted p).sublist (joining_sublist ⊥ p.candidates)

theorem addCosts_forest_eq_error_iff :
    addCosts 0 p.forest = .error (.costOverflow summingRoads) ↔ p.SumOverflows := by
  rw [addCosts_eq_error_iff (forest_sorted p) (by decide), Int.zero_add, Int.zero_add]
  rfl

section Valid

variable (hp : Within (regionSet p.regions) p.roads)

include hp

theorem plan_of_sumOverflows (h : p.SumOverflows) :
    p.plan = .error (.costOverflow summingRoads) := by
  rw [plan_of_within hp, addCosts_forest_eq_error_iff.mpr h]
  rfl

/-- If the costs of the forest can be added up, the planner charges for the exact selection. -/
theorem plan_of_not_sumOverflows (h : ¬ p.SumOverflows) : p.plan = p.charge p.exact := by
  rw [plan_of_within hp]
  cases hsum : addCosts 0 p.forest with
  | error e =>
      rw [addCosts_eq_error hsum] at hsum
      exact absurd (addCosts_forest_eq_error_iff.mp hsum) h
  | ok sum =>
      rw [addCosts_eq_sum hsum]
      rfl

end Valid

/-- What planning comes to, told from the roads and the exact sums. -/
inductive Outcome (p : Problem) : Except PlanError Plan → Prop
  | invalidRegion {position region : Nat} (first : FirstMissing p p.roads position region) :
      Outcome p (.error (.invalidRegion position region p.regions))
  | summing (within : Within (regionSet p.regions) p.roads) (sum : p.SumOverflows) :
      Outcome p (.error (.costOverflow summingRoads))
  | charging (within : Within (regionSet p.regions) p.roads) (sum : ¬ p.SumOverflows)
      (charge : p.ChargeOverflows p.exact) : Outcome p (.error (.costOverflow chargingFallback))
  | planned (within : Within (regionSet p.regions) p.roads) (sum : ¬ p.SumOverflows)
      (charge : ¬ p.ChargeOverflows p.exact) :
      Outcome p (.ok ⟨p.forest, (p.forest.map Road.cost).sum, p.groupsLeft, p.fallback,
        p.groupsLeft * p.fallback + (p.forest.map Road.cost).sum⟩)

theorem plan_outcome (p : Problem) : Outcome p p.plan := by
  by_cases hp : Within (regionSet p.regions) p.roads
  · by_cases hsum : p.SumOverflows
    · rw [plan_of_sumOverflows hp hsum]
      exact .summing hp hsum
    · rw [plan_of_not_sumOverflows hp hsum]
      by_cases hcharge : p.ChargeOverflows p.exact
      · rw [charge_of_overflows hcharge]
        exact .charging hp hsum hcharge
      · rw [charge_of_not_overflows hcharge]
        exact .planned hp hsum hcharge
  · obtain ⟨position, region, hfirst⟩ := exists_firstMissing_of_not_within hp
    rw [plan_of_firstMissing hfirst]
    exact .invalidRegion hfirst

/-- A sum that overflows tells where it did. -/
theorem Outcome.of_costOverflow {stage : String}
    (h : Outcome p (.error (.costOverflow stage))) :
    Within (regionSet p.regions) p.roads ∧
      ((stage = summingRoads ∧ p.SumOverflows) ∨
        (stage = chargingFallback ∧ ¬ p.SumOverflows ∧ p.ChargeOverflows p.exact)) := by
  cases h with
  | summing within sum => exact ⟨within, Or.inl ⟨rfl, sum⟩⟩
  | charging within sum charge => exact ⟨within, Or.inr ⟨rfl, sum, charge⟩⟩

/-- The outcome of a problem, told by exact integers: which road is refused, which sum overflows,
or which plan there is. -/
structure Settled (p : Problem) : Prop where
  /-- The forest is what is picked from the roads that cost less than the fallback, by cost and
  then by position, and its groups are those into which these roads connect all regions. -/
  chosen : ∃ order : List (Fin p.roads.length), InTurn p.roads order ∧
    (∀ i, i ∈ order ↔ (p.roads.get i).cost < p.fallback) ∧
    p.forest = joining ⊥ (order.map p.roads.get) ∧
    p.groupsLeft = classCount (connection (order.map p.roads.get)) (regionSet p.regions)
  /-- A region is refused exactly if an end of some road is missing, whatever the road costs. -/
  refused_iff : (∃ position region regions,
      p.plan = .error (.invalidRegion position region regions)) ↔
    ∃ road ∈ p.roads, p.Missing road.left ∨ p.Missing road.right
  /-- Then the first such road is named, and its left end before its right end. -/
  invalidRegion_iff : ∀ position region regions,
    p.plan = .error (.invalidRegion position region regions) ↔
      regions = p.regions ∧ FirstMissing p p.roads position region
  /-- Otherwise the costs of the forest are added up, which ascend. -/
  ascending : (p.forest.map Road.cost).Pairwise (· ≤ ·)
  /-- They cannot be added up if the negative ones fall below the range, or all of them rise
  above it. -/
  summing_iff : p.plan = .error (.costOverflow summingRoads) ↔
    Within (regionSet p.regions) p.roads ∧ p.SumOverflows
  /-- Otherwise the groups cannot be charged if their number, their charge or the total is out
  of range. -/
  charging_iff : p.plan = .error (.costOverflow chargingFallback) ↔
    Within (regionSet p.regions) p.roads ∧ ¬ p.SumOverflows ∧ p.ChargeOverflows p.exact
  /-- Otherwise there is a plan, and its costs are exact. -/
  ok_iff : ∀ plan, p.plan = .ok plan ↔
    Within (regionSet p.regions) p.roads ∧ ¬ p.SumOverflows ∧ ¬ p.ChargeOverflows p.exact ∧
      plan = ⟨p.forest, (p.forest.map Road.cost).sum, p.groupsLeft, p.fallback,
        p.groupsLeft * p.fallback + (p.forest.map Road.cost).sum⟩

theorem invalidRegion_iff {position region regions : Nat} :
    p.plan = .error (.invalidRegion position region regions) ↔
      regions = p.regions ∧ FirstMissing p p.roads position region := by
  constructor
  · intro h
    have houtcome := plan_outcome p
    rw [h] at houtcome
    cases houtcome with
    | invalidRegion first => exact ⟨rfl, first⟩
  · rintro ⟨rfl, hfirst⟩
    exact plan_of_firstMissing hfirst

/-- Planning never wraps a cost: every problem is settled by exact integers. -/
theorem plan_settled (p : Problem) : Settled p where
  chosen := by
    refine ⟨turnsBelow p.roads p.fallback, turnsBelow_inTurn p.roads p.fallback,
      fun i => mem_turnsBelow, ?_, ?_⟩
    · rw [Problem.forest, candidates_eq_map_turnsBelow]
    · rw [Problem.groupsLeft, candidates_eq_map_turnsBelow]
  refused_iff := by
    simp only [invalidRegion_iff, exists_eq_left, exists_firstMissing_iff, Problem.HasEnds,
      not_and_or, not_not]
  invalidRegion_iff _ _ _ := invalidRegion_iff
  ascending := List.pairwise_map.mpr (forest_sorted p)
  summing_iff := by
    constructor
    · intro h
      obtain ⟨hp, ⟨_, hsum⟩ | ⟨hstage, _⟩⟩ := (h ▸ plan_outcome p).of_costOverflow
      · exact ⟨hp, hsum⟩
      · exact absurd hstage (by decide)
    · rintro ⟨hp, hsum⟩
      exact plan_of_sumOverflows hp hsum
  charging_iff := by
    constructor
    · intro h
      obtain ⟨hp, ⟨hstage, _⟩ | ⟨_, hcharge⟩⟩ := (h ▸ plan_outcome p).of_costOverflow
      · exact absurd hstage (by decide)
      · exact ⟨hp, hcharge⟩
    · rintro ⟨hp, hsum, hcharge⟩
      rw [plan_of_not_sumOverflows hp hsum, charge_of_overflows hcharge]
  ok_iff plan := by
    constructor
    · intro h
      have houtcome := plan_outcome p
      rw [h] at houtcome
      cases houtcome with
      | planned within sum charge => exact ⟨within, sum, charge, rfl⟩
    · rintro ⟨hp, hsum, hcharge, rfl⟩
      rw [plan_of_not_sumOverflows hp hsum, charge_of_not_overflows hcharge]
      rfl

end ProbeForest.Network
