import ProbeForest.Proofs.Network.Overflow
import ProbeForest.Proofs.Network.SpanningForest
import ProbeForest.Proofs.Watching

/-!
# Overflow on the way to a total that can be written down

Planning checks every step of its sum, and so it may fail although the total
could be written down: a step leaves the range and a later one would have come
back.  The signs decide which steps can do this.

If the fallback is positive, the groups only add to the total.  What can leave
the range alone is the negative part of the costs, below it, or the charge of
the groups, above it.  If the fallback is not positive, every road of the
forest costs less than nothing, and the sum and the charge fall together; then
only the number of groups can be too large, as a factor that is checked by
itself.  `Problem.Strained` says this of a problem, and together with a total
out of range it is all that can make planning overflow.

## Main results

* `sumOverflows_or_chargeOverflows_iff` — some step overflows exactly if the
  total is out of range or the problem is strained.
* `plan_overflow` — the same said of planning, and when no problem is strained.
* `plan_overflow_inRange` — problems that are refused although their total
  could be written down.
-/

namespace ProbeForest.Network

open ProbeForest.Partition

variable {p : Problem} {roads : List Road}

/-! ## The exact total -/

/-- What serving every region costs, exactly. -/
noncomputable def Problem.exactTotal (p : Problem) : Int :=
  p.groupsLeft * p.fallback + (p.forest.map Road.cost).sum

theorem sumOverflows_iff : p.SumOverflows ↔
    debt p.exact.roads < -(Cost.limit : Int) ∨ Cost.limit ≤ p.exact.cost := Iff.rfl

theorem exactTotal_eq (p : Problem) :
    p.exactTotal = p.exact.remaining * p.fallback + p.exact.cost := rfl

/-- A step of the sum may leave the range although the total does not. -/
def Problem.Strained (p : Problem) : Prop :=
  (0 < p.fallback ∧
      (debt p.forest < -(Cost.limit : Int) ∨ Cost.limit ≤ p.groupsLeft * p.fallback)) ∨
    (p.fallback ≤ 0 ∧ Cost.limit ≤ p.groupsLeft)

/-! ## Signs -/

/-- The costs of roads are at least what their negative ones add up to. -/
theorem debt_le_sum (roads : List Road) : debt roads ≤ (roads.map Road.cost).sum := by
  induction roads with
  | nil => exact le_refl 0
  | cons road roads ih =>
      rw [List.map_cons, List.sum_cons]
      rcases lt_or_ge road.cost 0 with h | h
      · rw [debt_cons_of_neg h]
        omega
      · rw [debt_cons_of_nonneg h]
        omega

/-- If all costs are negative, there is nothing else to add up. -/
theorem debt_eq_sum (h : ∀ road ∈ roads, road.cost < 0) :
    debt roads = (roads.map Road.cost).sum := by
  induction roads with
  | nil => rfl
  | cons road roads ih =>
      rw [debt_cons_of_neg (h road List.mem_cons_self), List.map_cons, List.sum_cons,
        ih fun other hother => h other (List.mem_cons_of_mem road hother)]

theorem cost_lt_fallback_of_mem_forest {road : Road} (h : road ∈ p.forest) :
    road.cost < p.fallback :=
  (mem_candidates.mp ((joining_sublist ⊥ p.candidates).mem h)).2

theorem mem_roads_of_mem_forest {road : Road} (h : road ∈ p.forest) : road ∈ p.roads :=
  Multiset.mem_of_le (forest_le p) h

/-! ## The steps of the sum -/

/-- With a positive fallback, a step overflows if the total does, or the negative costs or the
charge do by themselves. -/
theorem overflows_iff_of_pos (hfallback : 0 < p.fallback) :
    p.SumOverflows ∨ p.ChargeOverflows p.exact ↔
      ¬ Cost.inRange p.exactTotal ∨ debt p.forest < -(Cost.limit : Int) ∨
        Cost.limit ≤ p.groupsLeft * p.fallback := by
  have hdebt := debt_le_sum p.forest
  have hcharge : 0 ≤ p.groupsLeft * p.fallback :=
    mul_nonneg (Int.natCast_nonneg _) hfallback.le
  have hcount : (p.groupsLeft : Int) ≤ p.groupsLeft * p.fallback :=
    le_mul_of_one_le_right (Int.natCast_nonneg _) hfallback
  simp only [Problem.SumOverflows, Problem.ChargeOverflows, Problem.exact, Problem.exactTotal,
    inRange_iff]
  omega

/-- Without a positive fallback, a step overflows if the total does, or there are too many
groups. -/
theorem overflows_iff_of_nonpos (hfallback : p.fallback ≤ 0) :
    p.SumOverflows ∨ p.ChargeOverflows p.exact ↔
      ¬ Cost.inRange p.exactTotal ∨ Cost.limit ≤ p.groupsLeft := by
  have hdebt : debt p.forest = (p.forest.map Road.cost).sum :=
    debt_eq_sum fun road hroad => (cost_lt_fallback_of_mem_forest hroad).trans_le hfallback
  have hsum := debt_nonpos p.forest
  have hcharge : p.groupsLeft * p.fallback ≤ 0 :=
    mul_nonpos_of_nonneg_of_nonpos (Int.natCast_nonneg _) hfallback
  simp only [Problem.SumOverflows, Problem.ChargeOverflows, Problem.exact, Problem.exactTotal,
    inRange_iff]
  omega

/-- Some step overflows exactly if the total is out of range or the problem is strained. -/
theorem sumOverflows_or_chargeOverflows_iff (p : Problem) :
    p.SumOverflows ∨ p.ChargeOverflows p.exact ↔ ¬ Cost.inRange p.exactTotal ∨ p.Strained := by
  rcases lt_or_ge 0 p.fallback with hpos | hnonpos
  · rw [overflows_iff_of_pos hpos]
    simp [Problem.Strained, hpos, not_le.mpr hpos]
  · rw [overflows_iff_of_nonpos hnonpos]
    simp [Problem.Strained, hnonpos, not_lt.mpr hnonpos]

/-! ## Problems that are not strained -/

/-- If no road costs less than nothing, the charge does not overflow before the total. -/
theorem not_strained_of_nonneg (hfallback : 0 < p.fallback)
    (hroads : ∀ road ∈ p.roads, 0 ≤ road.cost) (htotal : Cost.inRange p.exactTotal) :
    ¬ p.Strained := by
  have hforest : ∀ road ∈ p.forest, 0 ≤ road.cost := fun road hroad =>
    hroads road (mem_roads_of_mem_forest hroad)
  have hdebt := debt_eq_zero hforest
  have hsum := sum_cost_nonneg hforest
  rw [Problem.exactTotal, inRange_iff] at htotal
  intro hstrained
  rcases hstrained with ⟨_, hlow | hhigh⟩ | ⟨hnonpos, _⟩
  · rw [hdebt] at hlow
    omega
  · omega
  · omega

/-- If the fallback is not positive and the regions can be counted, so can the groups. -/
theorem not_strained_of_few (hp : Within (regionSet p.regions) p.roads)
    (hfallback : p.fallback ≤ 0) (hregions : p.regions < Cost.limit) : ¬ p.Strained := by
  have hcount := length_forest_add_groupsLeft hp
  intro hstrained
  rcases hstrained with ⟨hpos, _⟩ | ⟨_, hmany⟩
  · omega
  · omega

/-! ## Planning -/

/-- Planning overflows, told by the exact total. -/
structure OverflowsUnderStrain (p : Problem) : Prop where
  /-- A plan under watch is the plan. -/
  watched : Journal.Gives (Workflow.plan p) p.plan
  /-- Planning overflows exactly if all regions exist, and the total is out of range or the
  problem is strained. -/
  overflow_iff : (∃ stage, p.plan = .error (.costOverflow stage)) ↔
    Within (regionSet p.regions) p.roads ∧ (¬ Cost.inRange p.exactTotal ∨ p.Strained)
  /-- A plan is never returned with another total than the exact one. -/
  exact_of_ok : ∀ plan, p.plan = .ok plan →
    plan.total = p.exactTotal ∧ Cost.inRange p.exactTotal ∧ ¬ p.Strained
  /-- If no road costs less than nothing, only a total out of range overflows. -/
  nonneg : 0 < p.fallback → (∀ road ∈ p.roads, 0 ≤ road.cost) →
    ∀ stage, p.plan = .error (.costOverflow stage) → ¬ Cost.inRange p.exactTotal
  /-- So it is if the fallback is not positive and the regions can be counted. -/
  nonpos : p.fallback ≤ 0 → p.regions < Cost.limit →
    ∀ stage, p.plan = .error (.costOverflow stage) → ¬ Cost.inRange p.exactTotal

theorem overflow_iff : (∃ stage, p.plan = .error (.costOverflow stage)) ↔
    Within (regionSet p.regions) p.roads ∧ (¬ Cost.inRange p.exactTotal ∨ p.Strained) := by
  rw [← sumOverflows_or_chargeOverflows_iff]
  constructor
  · intro h
    obtain ⟨stage, hstage⟩ := h
    obtain ⟨hp, ⟨_, hsum⟩ | ⟨_, _, hcharge⟩⟩ := (hstage ▸ plan_outcome p).of_costOverflow
    · exact ⟨hp, Or.inl hsum⟩
    · exact ⟨hp, Or.inr hcharge⟩
  · intro h
    by_cases hsum : p.SumOverflows
    · exact ⟨summingRoads, plan_of_sumOverflows h.1 hsum⟩
    · have hcharge := h.2.resolve_left hsum
      refine ⟨chargingFallback, ?_⟩
      rw [plan_of_not_sumOverflows h.1 hsum, charge_of_overflows hcharge]

/-- Planning overflows only if the total is out of range or the problem is strained. -/
theorem plan_overflow (p : Problem) : OverflowsUnderStrain p where
  watched := Workflow.gives_plan p
  overflow_iff := overflow_iff
  exact_of_ok plan h := by
    obtain ⟨hp, hplan⟩ := plan_eq_ok h
    have hnone : ¬ (¬ Cost.inRange p.exactTotal ∨ p.Strained) := by
      intro hover
      obtain ⟨stage, hstage⟩ := overflow_iff.mpr ⟨hp, hover⟩
      rw [h] at hstage
      cases hstage
    obtain ⟨htotal, hstrained⟩ := not_or.mp hnone
    refine ⟨?_, not_not.mp htotal, hstrained⟩
    rw [hplan]
    rfl
  nonneg hfallback hroads stage h htotal := by
    obtain ⟨_, hout | hstrained⟩ := overflow_iff.mp ⟨stage, h⟩
    · exact hout htotal
    · exact not_strained_of_nonneg hfallback hroads htotal hstrained
  nonpos hfallback hregions stage h htotal := by
    obtain ⟨hp, hout | hstrained⟩ := overflow_iff.mp ⟨stage, h⟩
    · exact hout htotal
    · exact not_strained_of_few hp hfallback hregions hstrained

/-! ## Totals that are missed -/

/-- Independent roads all join two groups. -/
theorem joining_of_independent {r : Setoid Nat} (h : Independent r roads) :
    joining r roads = roads := by
  induction roads generalizing r with
  | nil => rfl
  | cons road roads ih =>
      rw [joining_cons_of_not_rel h.1, ih h.2]

/-- If the candidates are without cycles, all of them are selected. -/
theorem exact_of_candidates (hp : Within (regionSet p.regions) p.roads)
    (hcandidates : p.candidates = roads) (h : Acyclic roads Finset.univ) :
    p.exact = ⟨roads, (roads.map Road.cost).sum, p.regions - roads.length⟩ := by
  have hforest : p.forest = roads := by
    rw [Problem.forest, hcandidates]
    exact joining_of_independent (acyclic_univ_iff.mp h)
  have hcount := length_forest_add_groupsLeft hp
  rw [hforest] at hcount
  rw [Problem.exact, hforest, ← hcount, Nat.add_sub_cancel_left]

/-- A sum of roads that falls below the range, and comes back with the last road. -/
def sinking : Problem := ⟨4, 2, [⟨1, 2, -9223372036854775808⟩, ⟨2, 3, -1⟩, ⟨3, 4, 1⟩]⟩

/-- Two groups that cost more than can be written down, and a road that gives it all back. -/
def steep : Problem := ⟨3, 4611686018427387904, [⟨1, 2, -9223372036854775808⟩]⟩

/-- Groups that are too many to be counted, but none of them pays. -/
def crowded : Problem := ⟨9223372036854775808, 0, []⟩

theorem exact_sinking : sinking.exact = ⟨sinking.roads, -9223372036854775808, 1⟩ := by
  have hcandidates : sinking.candidates = sinking.roads := by
    simp [sinking, Problem.candidates, List.mergeSort]
  exact exact_of_candidates (checkRoads_eq_ok_iff.mp (by decide)) hcandidates (by decide +kernel)

theorem exact_steep : steep.exact = ⟨steep.roads, -9223372036854775808, 2⟩ := by
  have hcandidates : steep.candidates = steep.roads := by
    simp [steep, Problem.candidates]
  exact exact_of_candidates (checkRoads_eq_ok_iff.mp (by decide)) hcandidates (by decide +kernel)

theorem exact_crowded : crowded.exact = ⟨[], 0, 9223372036854775808⟩ := by
  have hcandidates : crowded.candidates = [] := by
    simp [crowded, Problem.candidates]
  exact exact_of_candidates (checkRoads_eq_ok_iff.mp (by decide)) hcandidates (by decide +kernel)

theorem plan_sinking : sinking.plan = .error (.costOverflow summingRoads) := by
  apply plan_of_sumOverflows (checkRoads_eq_ok_iff.mp (by decide))
  rw [sumOverflows_iff, exact_sinking]
  decide

theorem plan_steep : steep.plan = .error (.costOverflow chargingFallback) := by
  have hsum : ¬ steep.SumOverflows := by
    rw [sumOverflows_iff, exact_steep]
    decide
  rw [plan_of_not_sumOverflows (checkRoads_eq_ok_iff.mp (by decide)) hsum, exact_steep]
  exact charge_of_overflows (Or.inr (Or.inl (by decide)))

theorem plan_crowded : crowded.plan = .error (.costOverflow chargingFallback) := by
  have hsum : ¬ crowded.SumOverflows := by
    rw [sumOverflows_iff, exact_crowded]
    decide
  rw [plan_of_not_sumOverflows (checkRoads_eq_ok_iff.mp (by decide)) hsum, exact_crowded]
  exact charge_of_overflows (Or.inl (by decide))

/-- Every step can overflow by itself: each of these problems is refused, though its total can be
written down. -/
theorem plan_overflow_inRange :
    (sinking.plan = .error (.costOverflow summingRoads) ∧ Cost.inRange sinking.exactTotal) ∧
      (steep.plan = .error (.costOverflow chargingFallback) ∧ Cost.inRange steep.exactTotal) ∧
      crowded.plan = .error (.costOverflow chargingFallback) ∧
        Cost.inRange crowded.exactTotal := by
  refine ⟨⟨plan_sinking, ?_⟩, ⟨plan_steep, ?_⟩, plan_crowded, ?_⟩
  · rw [exactTotal_eq, exact_sinking]
    decide
  · rw [exactTotal_eq, exact_steep]
    decide
  · rw [exactTotal_eq, exact_crowded]
    decide

end ProbeForest.Network
