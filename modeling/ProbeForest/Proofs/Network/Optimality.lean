import ProbeForest.Proofs.Network.Greedy
import ProbeForest.Proofs.Network.PlainPlan

/-!
# The plan is cheapest

The bill of a choice of roads is what these roads cost, and one fallback for
every group of regions that they leave.  Choices are sets of positions in the
list of roads, so that equal roads at two positions are two roads.  For roads
without cycles the bill is the surplus of the roads above a constant, and the
plan, whose roads were chosen greedily, has the smallest.

## Main results

* `plan_eq_ok` — what a plan consists of.
* `bill_forest_le` — no independent part of the roads has a smaller bill than
  the forest of the plan.
* `plan_total_le_bill` — the same, said of sets of positions; for roads of
  non-negative cost cycles do not help either.
-/

namespace ProbeForest.Network

open ProbeForest.Partition

variable {p : Problem} {plan : Plan} {road : Road} {roads chosen : List Road}

/-! ## What a plan consists of -/

theorem addCosts_eq_sum {sum : Int} (h : addCosts 0 roads = .ok sum) :
    sum = (roads.map Road.cost).sum := by
  rw [addCosts_eq_ok h, Int.zero_add]

/-- The total of a selection, if every step of its sum can be written down. -/
def Problem.total? (p : Problem) (selection : Problem.Selection) : Option Int :=
  (Cost.ofCount? selection.remaining).bind fun groups =>
    (Cost.mul? groups p.fallback).bind fun charged => Cost.add? charged selection.cost

theorem charge_of_some {selection : Problem.Selection} {total : Int}
    (h : p.total? selection = some total) :
    p.charge selection =
      .ok ⟨selection.roads, selection.cost, selection.remaining, p.fallback, total⟩ := by
  unfold Problem.total? at h
  simp only [Problem.charge, Option.bind_eq_bind, h]

theorem charge_of_none {selection : Problem.Selection} (h : p.total? selection = none) :
    p.charge selection = .error (.costOverflow chargingFallback) := by
  unfold Problem.total? at h
  simp only [Problem.charge, Option.bind_eq_bind, h]

theorem total?_eq_some {selection : Problem.Selection} {total : Int}
    (h : p.total? selection = some total) :
    total = selection.remaining * p.fallback + selection.cost := by
  rw [Problem.total?, Option.bind_eq_some_iff] at h
  obtain ⟨groups, hgroups, h⟩ := h
  obtain ⟨charged, hcharged, htotal⟩ := Option.bind_eq_some_iff.mp h
  rw [← (add?_eq_some_iff.mp htotal).2, ← (mul?_eq_some_iff.mp hcharged).2,
    ← (ofCount?_eq_some_iff.mp hgroups).2]

/-- The total of a charge is exact. -/
theorem charge_eq_ok {selection : Problem.Selection} (h : p.charge selection = .ok plan) :
    plan = ⟨selection.roads, selection.cost, selection.remaining, p.fallback,
      selection.remaining * p.fallback + selection.cost⟩ := by
  cases htotal : p.total? selection with
  | none =>
      rw [charge_of_none htotal] at h
      cases h
  | some total =>
      rw [charge_of_some htotal] at h
      rw [← total?_eq_some htotal]
      exact (Except.ok.inj h).symm

/-- With regions that exist, the costs of the forest are added up, and the groups are charged. -/
theorem plan_of_within (hp : Within (regionSet p.regions) p.roads) :
    p.plan = (addCosts 0 p.forest).bind fun cost => p.charge ⟨p.forest, cost, p.groupsLeft⟩ := by
  rw [Problem.plan, checkRoads_eq_ok_iff.mpr hp, select_eq hp]
  cases addCosts 0 p.forest <;> rfl

/-- A plan builds the forest of its problem, and charges the groups that the candidates leave. -/
theorem plan_eq_ok (h : p.plan = .ok plan) :
    Within (regionSet p.regions) p.roads ∧
      plan = ⟨p.forest, (p.forest.map Road.cost).sum, p.groupsLeft, p.fallback,
        p.groupsLeft * p.fallback + (p.forest.map Road.cost).sum⟩ := by
  by_cases hp : Within (regionSet p.regions) p.roads
  · rw [plan_of_within hp] at h
    cases hsum : addCosts 0 p.forest with
    | error e =>
        rw [hsum] at h
        cases h
    | ok sum =>
        rw [hsum, addCosts_eq_sum hsum] at h
        exact ⟨hp, charge_eq_ok h⟩
  · obtain ⟨road, region, heq⟩ := plan_of_not_within hp
    rw [heq] at h
    cases h

/-! ## Bills -/

/-- What a choice of roads costs: the roads, and one fallback for every group that they leave. -/
noncomputable def Problem.bill (p : Problem) (chosen : List Road) : Int :=
  (chosen.map Road.cost).sum +
    p.fallback * classCount (connection chosen) (regionSet p.regions)

/-- Independent roads and the groups that they leave make up the regions. -/
theorem classCount_connection_add_length (hind : Independent ⊥ chosen)
    (hV : Within (regionSet p.regions) chosen) :
    classCount (connection chosen) (regionSet p.regions) + chosen.length = p.regions := by
  have hcount := hind.classCount_add_length hV
  rwa [classCount_bot, card_regionSet, ← connection_eq_joinAll] at hcount

/-- The bill of independent roads is their surplus above the bill of no road. -/
theorem bill_of_independent (hind : Independent ⊥ chosen)
    (hV : Within (regionSet p.regions) chosen) :
    p.bill chosen = p.fallback * p.regions + surplus p.fallback chosen := by
  have hregions : (p.regions : Int) =
      classCount (connection chosen) (regionSet p.regions) + chosen.length := by
    rw [← Nat.cast_add, classCount_connection_add_length hind hV]
  rw [Problem.bill, surplus_eq, hregions]
  ring

theorem forest_connection (p : Problem) : connection p.forest = connection p.candidates := by
  rw [connection_eq_joinAll, connection_eq_joinAll, Problem.forest, joinAll_joining]

theorem forest_independent (p : Problem) : Independent ⊥ p.forest :=
  joining_independent ⊥ p.candidates

/-- The roads that cost less than the fallback, in the order in which they are on offer. -/
def Problem.affordable (p : Problem) : List Road :=
  p.roads.filter fun road => road.cost < p.fallback

theorem forest_le_affordable (p : Problem) : (p.forest : Multiset Road) ≤ p.affordable := by
  have hsub : (p.forest : Multiset Road) ≤ p.candidates :=
    Multiset.coe_le.mpr (joining_sublist ⊥ p.candidates).subperm
  exact hsub.trans_eq (Multiset.coe_eq_coe.mpr (candidates_perm p))

theorem forest_le (p : Problem) : (p.forest : Multiset Road) ≤ p.roads :=
  (forest_le_affordable p).trans (Multiset.coe_le.mpr List.filter_sublist.subperm)

theorem within_of_le (hp : Within (regionSet p.regions) p.roads)
    (hpart : (chosen : Multiset Road) ≤ p.roads) : Within (regionSet p.regions) chosen :=
  hp.sublist fun _ hroad => Multiset.mem_of_le hpart hroad

/-- No independent part of the roads has a smaller bill than the forest. -/
theorem bill_forest_le (hp : Within (regionSet p.regions) p.roads)
    (hind : Independent ⊥ chosen) (hpart : (chosen : Multiset Road) ≤ p.roads) :
    p.bill p.forest ≤ p.bill chosen := by
  -- Roads that cost at least the fallback are no candidates, and leaving them out helps.
  let kept := chosen.filter fun road => road.cost < p.fallback
  have hkept : Independent ⊥ kept := hind.sublist List.filter_sublist
  have hkeptPart : (kept : Multiset Road) ≤ p.candidates := by
    have hfilter := Multiset.filter_le_filter (fun road => road.cost < p.fallback) hpart
    rw [Multiset.filter_coe, Multiset.filter_coe] at hfilter
    exact le_of_le_of_eq hfilter (Multiset.coe_eq_coe.mpr (candidates_perm p)).symm
  have hcheap : ∀ road ∈ p.candidates, road.cost ≤ p.fallback :=
    fun road hroad => le_of_lt (mem_candidates.mp hroad).2
  rw [bill_of_independent (forest_independent p) (within_of_le hp (forest_le p)),
    bill_of_independent hind (within_of_le hp hpart)]
  have hgreedy : surplus p.fallback p.forest ≤ surplus p.fallback kept :=
    surplus_joining_le (candidates_sorted p) hcheap hkept hkeptPart
  have hfilter : surplus p.fallback kept ≤ surplus p.fallback chosen :=
    surplus_filter_le p.fallback chosen
  omega

theorem sum_cost_sublist_le (hsub : chosen.Sublist roads)
    (hcost : ∀ road ∈ roads, 0 ≤ road.cost) :
    (chosen.map Road.cost).sum ≤ (roads.map Road.cost).sum := by
  induction hsub with
  | slnil => exact le_refl _
  | cons road _ ih =>
      have hroad := hcost road List.mem_cons_self
      have hrest := ih fun other hother => hcost other (List.mem_cons_of_mem road hother)
      rw [List.map_cons, List.sum_cons]
      omega
  | cons_cons road _ ih =>
      have hrest := ih fun other hother => hcost other (List.mem_cons_of_mem road hother)
      rw [List.map_cons, List.map_cons, List.sum_cons, List.sum_cons]
      omega

/-- Without negative costs, roads that close cycles only add to the bill. -/
theorem bill_joining_le (hcost : ∀ road ∈ chosen, 0 ≤ road.cost) :
    p.bill (joining ⊥ chosen) ≤ p.bill chosen := by
  have hsum := sum_cost_sublist_le (joining_sublist ⊥ chosen) hcost
  have hconn : connection (joining ⊥ chosen) = connection chosen := by
    rw [connection_eq_joinAll, connection_eq_joinAll, joinAll_joining]
  rw [Problem.bill, Problem.bill, hconn]
  omega

theorem plan_total_eq_bill (h : p.plan = .ok plan) : plan.total = p.bill plan.roads := by
  obtain ⟨_, rfl⟩ := plan_eq_ok h
  show p.groupsLeft * p.fallback + _ = p.bill p.forest
  rw [Problem.bill, forest_connection, Problem.groupsLeft, Int.add_comm, Int.mul_comm]

/-! ## Choices of positions -/

/-- The chosen positions of a list of roads, in order. -/
def positions (roads : List Road) (S : Finset (Fin roads.length)) : List (Fin roads.length) :=
  (List.finRange roads.length).filter (· ∈ S)

/-- The roads at the chosen positions, in order. -/
def roadsAt (roads : List Road) (S : Finset (Fin roads.length)) : List Road :=
  (positions roads S).map roads.get

/-- No road at a chosen position has its ends connected by those at the other chosen positions.
A road from a region to itself never qualifies, and of parallel roads at most one does. -/
def Acyclic (roads : List Road) (S : Finset (Fin roads.length)) : Prop :=
  ∀ i ∈ S, ¬ connection (roadsAt roads (S.erase i)) (roads.get i).left (roads.get i).right

instance decidableAcyclic (roads : List Road) (S : Finset (Fin roads.length)) :
    Decidable (Acyclic roads S) :=
  have : ∀ pairs : List (Nat × Nat), DecidableRel (generated pairs) := inferInstance
  inferInstanceAs (Decidable (∀ i ∈ S,
    ¬ generated ((roadsAt roads (S.erase i)).map Road.ends)
      (roads.get i).left (roads.get i).right))

section Positions

variable {S : Finset (Fin roads.length)} {i : Fin roads.length}

theorem mem_positions : i ∈ positions roads S ↔ i ∈ S := by
  simp [positions]

theorem nodup_positions (roads : List Road) (S : Finset (Fin roads.length)) :
    (positions roads S).Nodup :=
  (List.nodup_finRange roads.length).filter _

theorem roadsAt_le (roads : List Road) (S : Finset (Fin roads.length)) :
    (roadsAt roads S : Multiset Road) ≤ roads := by
  have hsub : (roadsAt roads S).Sublist ((List.finRange roads.length).map roads.get) :=
    List.filter_sublist.map roads.get
  rw [List.map_get_finRange] at hsub
  exact Multiset.coe_le.mpr hsub.subperm

/-- A chosen road can be taken last. -/
theorem roadsAt_perm_erase (hi : i ∈ S) :
    (roadsAt roads S).Perm (roadsAt roads (S.erase i) ++ [roads.get i]) := by
  have hnodup : (positions roads (S.erase i) ++ [i]).Nodup := by
    refine List.nodup_append.mpr ⟨nodup_positions roads _, List.nodup_singleton i, ?_⟩
    intro j hj k hk
    rw [mem_positions, Finset.mem_erase] at hj
    rw [List.mem_singleton] at hk
    exact hk ▸ hj.1
  have hperm : (positions roads S).Perm (positions roads (S.erase i) ++ [i]) := by
    refine (List.perm_ext_iff_of_nodup (nodup_positions roads S) hnodup).mpr fun j => ?_
    rw [List.mem_append, mem_positions, mem_positions, List.mem_singleton, Finset.mem_erase]
    by_cases hj : j = i
    · simp [hj, hi]
    · simp [hj]
  simpa [roadsAt] using hperm.map roads.get

/-- Chosen roads join the groups that are left by those taken before them, which are among
the others. -/
theorem Acyclic.independent_behind (h : Acyclic roads S) (before behind : List (Fin roads.length))
    (heq : positions roads S = before ++ behind) :
    Independent (joinAll ⊥ (before.map roads.get)) (behind.map roads.get) := by
  induction behind generalizing before with
  | nil => exact trivial
  | cons i behind ih =>
      have hi : i ∈ S := by
        rw [← mem_positions, heq]
        simp
      have hnodup : (before ++ i :: behind).Nodup := heq ▸ nodup_positions roads S
      have hbefore : ∀ road ∈ before.map roads.get, road ∈ roadsAt roads (S.erase i) := by
        intro road hroad
        obtain ⟨j, hj, rfl⟩ := List.mem_map.mp hroad
        refine List.mem_map.mpr ⟨j, mem_positions.mpr (Finset.mem_erase.mpr ⟨?_, ?_⟩), rfl⟩
        · exact (List.nodup_append.mp hnodup).2.2 j hj i List.mem_cons_self
        · rw [← mem_positions, heq]
          exact List.mem_append_left _ hj
      refine ⟨fun hr => h i hi ?_, ?_⟩
      · rw [connection_eq_joinAll]
        exact joinAll_mono hbefore hr
      · have hrest := ih (before ++ [i]) (by rw [heq, List.append_assoc]; rfl)
        rwa [List.map_append, joinAll_append] at hrest

/-- Positions are without cycles exactly if their roads are independent. -/
theorem acyclic_iff_independent : Acyclic roads S ↔ Independent ⊥ (roadsAt roads S) := by
  constructor
  · intro h
    exact h.independent_behind [] (positions roads S) rfl
  · intro h i hi hconn
    have hlast := (independent_append.mp (h.perm (roadsAt_perm_erase hi))).2
    rw [← connection_eq_joinAll] at hlast
    exact hlast.1 hconn

/-- Every part of the roads stands at some positions. -/
theorem exists_positions (hpart : (chosen : Multiset Road) ≤ roads) :
    ∃ S : Finset (Fin roads.length), (roadsAt roads S).Perm chosen := by
  obtain ⟨inOrder, hperm, hsub⟩ := Multiset.coe_le.mp hpart
  obtain ⟨is, rfl, his⟩ := List.sublist_eq_map_getElem hsub
  refine ⟨is.toFinset, List.Perm.trans ?_ hperm⟩
  have hpositions : (positions roads is.toFinset).Perm is := by
    have hnodup : is.Nodup := his.imp fun hlt => Fin.ne_of_lt hlt
    refine (List.perm_ext_iff_of_nodup (nodup_positions roads _) hnodup).mpr fun j => ?_
    rw [mem_positions, List.mem_toFinset]
  exact hpositions.map roads.get

end Positions

/-- A plan is cheapest.  No choice of roads without cycles has a smaller bill than the total of
the plan, whatever the signs of the costs, and if no cost is negative no choice at all has.  The
roads of the plan are a choice without cycles whose bill is the total. -/
theorem plan_total_le_bill (p : Problem) (plan : Plan) (h : p.plan = .ok plan) :
    (∀ S : Finset (Fin p.roads.length), Acyclic p.roads S →
        plan.total ≤ p.bill (roadsAt p.roads S)) ∧
      ((∀ road ∈ p.roads, 0 ≤ road.cost) →
        ∀ S : Finset (Fin p.roads.length), plan.total ≤ p.bill (roadsAt p.roads S)) ∧
      ∃ S : Finset (Fin p.roads.length), Acyclic p.roads S ∧
        (roadsAt p.roads S).Perm plan.roads ∧ plan.total = p.bill plan.roads := by
  have htotal := plan_total_eq_bill h
  obtain ⟨hp, rfl⟩ := plan_eq_ok h
  rw [htotal]
  refine ⟨fun S hS => ?_, fun hcost S => ?_, ?_⟩
  · exact bill_forest_le hp (acyclic_iff_independent.mp hS) (roadsAt_le p.roads S)
  · have hpart := roadsAt_le p.roads S
    have hsub := Multiset.coe_le.mpr (joining_sublist ⊥ (roadsAt p.roads S)).subperm
    exact le_trans
      (bill_forest_le hp (joining_independent ⊥ _) (le_trans hsub hpart))
      (bill_joining_le fun road hroad => hcost road (Multiset.mem_of_le hpart hroad))
  · obtain ⟨S, hS⟩ := exists_positions (forest_le p)
    exact ⟨S, acyclic_iff_independent.mpr ((forest_independent p).perm hS.symm), hS, rfl⟩

/-- Four regions with parallel roads, a road from a region to itself, and a road that is dearer
than the fallback. -/
def crossing : Problem where
  regions := 4
  fallback := 10
  roads := [⟨1, 2, 5⟩, ⟨2, 1, 5⟩, ⟨3, 3, 2⟩, ⟨2, 3, 4⟩, ⟨3, 4, 12⟩]

theorem plan_crossing : crossing.plan = .ok ⟨[⟨2, 3, 4⟩, ⟨1, 2, 5⟩], 9, 2, 10, 29⟩ := by
  have hcheck : crossing.checkRoads = .ok () := by decide
  have hcandidates : crossing.candidates = [⟨3, 3, 2⟩, ⟨2, 3, 4⟩, ⟨1, 2, 5⟩, ⟨2, 1, 5⟩] := by
    simp [crossing, Problem.candidates, List.mergeSort]
  rw [Problem.plan, hcheck, select_eq_foldlM (checkRoads_eq_ok_iff.mp hcheck), hcandidates]
  decide +kernel

/-- The positions of a tree that spans the four regions. -/
def crossingTree : Finset (Fin crossing.roads.length) :=
  Finset.univ.filter fun i => i.val ≠ 1 ∧ i.val ≠ 2

/-- Building the dear road as well is no cheaper, nor is building all roads. -/
theorem plan_total_le_bill_crossing :
    crossing.plan = .ok ⟨[⟨2, 3, 4⟩, ⟨1, 2, 5⟩], 9, 2, 10, 29⟩ ∧
      Acyclic crossing.roads crossingTree ∧
      29 ≤ crossing.bill (roadsAt crossing.roads crossingTree) ∧
      (∀ road ∈ crossing.roads, 0 ≤ road.cost) ∧
      29 ≤ crossing.bill (roadsAt crossing.roads Finset.univ) := by
  have hacyclic : Acyclic crossing.roads crossingTree := by decide +kernel
  have hcost : ∀ road ∈ crossing.roads, 0 ≤ road.cost := by decide
  obtain ⟨hforest, hall, _⟩ := plan_total_le_bill crossing _ plan_crossing
  exact ⟨plan_crossing, hacyclic, hforest _ hacyclic, hcost, hall hcost Finset.univ⟩

end ProbeForest.Network
