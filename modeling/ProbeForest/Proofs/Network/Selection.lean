import ProbeForest.Proofs.DisjointSet.Union
import ProbeForest.Proofs.Network.Numbering
import ProbeForest.Proofs.Network.Spanning
import ProbeForest.Proofs.StableSort

/-!
# What the planner selects

Disjoint sets over numbers represent a partition of regions when every region
has a number, regions of one group have numbers in one set, and the count of
the sets is the count of the groups.  The relation is kept by every union,
whatever the numbers are.  Building therefore picks exactly the `joining`
roads of the partition, and the early end leaves out only roads whose ends
are connected already.

## Main results

* `Represents.union_of_rel`, `Represents.union_of_not_rel` — one union on both sides.
* `Represents.step_of_rel`, `Represents.step_of_not_rel` — what one road does.
* `Represents.run` — a whole run with its early end, in terms of the partition.
* `select_eq` — the selection of a problem: the roads of its forest, their
  checked sum, and the number of groups of all regions.
-/

namespace ProbeForest.Network

open ProbeForest.Partition ProbeForest.StableSort

variable {groups : DisjointSet} {number : Nat → Nat} {V : Finset Nat} {r : Setoid Nat}
  {a b : Nat} {road : Road} {roads more : List Road} {p : Problem}

/-! ## Disjoint sets as a partition of regions -/

/-- Disjoint sets that keep the groups of the regions `V`, each region under its number. -/
structure Represents (groups : DisjointSet) (number : Nat → Nat) (V : Finset Nat)
    (r : Setoid Nat) : Prop where
  sound : groups.Sound
  number_lt : ∀ x ∈ V, number x < groups.size
  same_iff : ∀ x ∈ V, ∀ y ∈ V, groups.partition (number x) (number y) ↔ r x y
  components_eq : groups.components = classCount r V

theorem represents_singletons (hlt : ∀ x ∈ V, number x < V.card)
    (hinj : ∀ x ∈ V, ∀ y ∈ V, number x = number y → x = y) :
    Represents (DisjointSet.singletons V.card) number V ⊥ where
  sound := DisjointSet.sound_singletons V.card
  number_lt := by rwa [DisjointSet.size_singletons]
  same_iff x hx y hy := by
    rw [DisjointSet.partition_singletons]
    exact ⟨hinj x hx y hy, congrArg number⟩
  components_eq := (classCount_bot V).symm

/-- A union of connected regions changes nothing. -/
theorem Represents.union_of_rel (h : Represents groups number V r) (ha : a ∈ V) (hb : b ∈ V)
    (hr : r a b) :
    ∃ after, groups.union (number a) (number b) = (false, after) ∧
      Represents after number V r := by
  have hsame := DisjointSet.searched_sameSets h.sound (number a) (number b)
  refine ⟨_, DisjointSet.union_of_rel h.sound ((h.same_iff a ha b hb).mpr hr), ?_⟩
  exact
    { sound := DisjointSet.searched_sound h.sound _ _
      number_lt := by
        intro x hx
        rw [hsame.size]
        exact h.number_lt x hx
      same_iff := by
        intro x hx y hy
        rw [hsame.partition]
        exact h.same_iff x hx y hy
      components_eq := by rw [hsame.components, h.components_eq] }

/-- A union of regions that are apart joins their groups. -/
theorem Represents.union_of_not_rel (h : Represents groups number V r) (ha : a ∈ V) (hb : b ∈ V)
    (hr : ¬ r a b) :
    ∃ after, groups.union (number a) (number b) = (true, after) ∧
      Represents after number V (merge r a b) := by
  have hapart : ¬ groups.partition (number a) (number b) :=
    fun hsame => hr ((h.same_iff a ha b hb).mp hsame)
  obtain ⟨htrue, hlinked⟩ :=
    DisjointSet.union_of_not_rel h.sound (h.number_lt a ha) (h.number_lt b hb) hapart
  refine ⟨_, Prod.ext htrue rfl, ?_⟩
  exact
    { sound := hlinked.sound
      number_lt := by
        intro x hx
        rw [hlinked.size]
        exact h.number_lt x hx
      same_iff := by
        intro x hx y hy
        rw [hlinked.partition, merge_rel, merge_rel, h.same_iff x hx y hy, h.same_iff x hx a ha,
          h.same_iff b hb y hy, h.same_iff x hx b hb, h.same_iff a ha y hy]
      components_eq := by
        have hcount := classCount_merge ha hb hr
        have hlinkedCount := hlinked.components
        rw [h.components_eq, ← hcount] at hlinkedCount
        exact Nat.add_right_cancel hlinkedCount }

/-! ## Sums of costs -/

theorem add?_eq_some_iff {a b sum : Int} :
    Cost.add? a b = some sum ↔ Cost.inRange (a + b) ∧ a + b = sum := by
  rw [Cost.add?, Option.ite_none_right_eq_some, Option.some.injEq]

theorem mul?_eq_some_iff {a b product : Int} :
    Cost.mul? a b = some product ↔ Cost.inRange (a * b) ∧ a * b = product := by
  rw [Cost.mul?, Option.ite_none_right_eq_some, Option.some.injEq]

theorem ofCount?_eq_some_iff {n : Nat} {factor : Int} :
    Cost.ofCount? n = some factor ↔ n < Cost.limit ∧ (n : Int) = factor := by
  rw [Cost.ofCount?, Option.ite_none_right_eq_some, Option.some.injEq]

/-- Adds the costs of roads one after another, as long as the sums can be written down. -/
def addCosts (cost : Int) : List Road → Except PlanError Int
  | [] => .ok cost
  | road :: roads =>
    match Cost.add? cost road.cost with
    | some cost => addCosts cost roads
    | none => .error (.costOverflow summingRoads)

theorem addCosts_cons_of_some {cost sum : Int} (h : Cost.add? cost road.cost = some sum) :
    addCosts cost (road :: roads) = addCosts sum roads := by
  simp only [addCosts, h]

theorem addCosts_cons_of_none {cost : Int} (h : Cost.add? cost road.cost = none) :
    addCosts cost (road :: roads) = .error (.costOverflow summingRoads) := by
  simp only [addCosts, h]

/-- A sum that could be written down is exact. -/
theorem addCosts_eq_ok {cost sum : Int} (h : addCosts cost roads = .ok sum) :
    sum = cost + (roads.map Road.cost).sum := by
  induction roads generalizing cost with
  | nil =>
      injection h with h
      simp [h]
  | cons road roads ih =>
      cases hadd : Cost.add? cost road.cost with
      | none =>
          rw [addCosts_cons_of_none hadd] at h
          cases h
      | some next =>
          rw [addCosts_cons_of_some hadd] at h
          have hnext : cost + road.cost = next := (add?_eq_some_iff.mp hadd).2
          rw [ih h, List.map_cons, List.sum_cons, ← hnext, add_assoc]

/-- The cost of roads is added up without looking at their ends. -/
theorem addCosts_congr {cost : Int} (h : roads.map Road.cost = more.map Road.cost) :
    addCosts cost roads = addCosts cost more := by
  induction roads generalizing cost more with
  | nil =>
      cases more with
      | nil => rfl
      | cons other more => cases h
  | cons road roads ih =>
      cases more with
      | nil => cases h
      | cons other more =>
          obtain ⟨hcost, hrest⟩ := List.cons.inj h
          unfold addCosts
          rw [hcost]
          cases Cost.add? cost other.cost with
          | none => rfl
          | some sum => exact ih hrest

theorem addCosts_eq_error {cost : Int} {e : PlanError} (h : addCosts cost roads = .error e) :
    e = .costOverflow summingRoads := by
  induction roads generalizing cost with
  | nil => cases h
  | cons road roads ih =>
      unfold addCosts at h
      cases hadd : Cost.add? cost road.cost with
      | none =>
          rw [hadd] at h
          exact (Except.error.inj h).symm
      | some sum =>
          rw [hadd] at h
          exact ih h

/-! ## Building -/

/-- The roads of a construction in the order in which they were built, and what they leave. -/
def Construction.selection (untouched : Nat) (c : Construction) : Problem.Selection :=
  ⟨c.built.reverse, c.cost, untouched + c.groups.components⟩

/-- A road with its ends numbered. -/
def numberedEdge (number : Nat → Nat) (road : Road) : Edge :=
  ⟨number road.left, number road.right, road⟩

section Step

variable {built : List Road} {cost : Int}
  (h : Represents groups number V r) (hleft : road.left ∈ V) (hright : road.right ∈ V)

include h hleft hright

/-- A road whose ends are connected is passed over. -/
theorem Represents.step_of_rel (hr : r road.left road.right) :
    ∃ groups', Construction.step ⟨built, cost, groups⟩ (numberedEdge number road) =
        .ok ⟨built, cost, groups'⟩ ∧ Represents groups' number V r := by
  obtain ⟨groups', hunion, hrep⟩ := h.union_of_rel hleft hright hr
  refine ⟨groups', ?_, hrep⟩
  simp only [Construction.step, numberedEdge, hunion]

/-- Any other road is built, unless its cost cannot be added. -/
theorem Represents.step_of_not_rel (hr : ¬ r road.left road.right) :
    ∃ groups', Represents groups' number V (road.join r) ∧
      Construction.step ⟨built, cost, groups⟩ (numberedEdge number road) =
        match Cost.add? cost road.cost with
        | some sum => .ok ⟨road :: built, sum, groups'⟩
        | none => .error (.costOverflow summingRoads) := by
  obtain ⟨groups', hunion, hrep⟩ := h.union_of_not_rel hleft hright hr
  refine ⟨groups', hrep, ?_⟩
  cases hadd : Cost.add? cost road.cost with
  | none => simp only [Construction.step, numberedEdge, hunion, hadd]
  | some sum => simp only [Construction.step, numberedEdge, hunion, hadd]

end Step

/-- When at most one group is left, the ends of every road are connected. -/
theorem Represents.rel_of_components_le_one
    (h : Represents groups number V r) (hone : groups.components ≤ 1) (hV : Within V roads) :
    ∀ road ∈ roads, r road.left road.right := by
  rw [h.components_eq] at hone
  intro road hroad
  obtain ⟨hleft, hright⟩ := hV road hroad
  exact classCount_le_one_iff.mp hone _ hleft _ hright

/-- Building picks the roads that join two groups, and stops early only if there are none left. -/
theorem Represents.run {c : Construction} (untouched : Nat)
    (h : Represents c.groups number V r) (hV : Within V roads) :
    (Construction.run untouched c (roads.map (numberedEdge number))).map
        (Construction.selection untouched) =
      (addCosts c.cost (joining r roads)).map fun cost =>
        ⟨c.built.reverse ++ joining r roads, cost,
          untouched + classCount (joinAll r roads) V⟩ := by
  induction roads generalizing c r with
  | nil =>
      rw [List.map_nil, Construction.run, joining, addCosts]
      simp only [Except.map, Construction.selection, joinAll_nil, List.append_nil,
        h.components_eq]
  | cons road roads ih =>
      obtain ⟨hleft, hright⟩ := hV road List.mem_cons_self
      have hV' : Within V roads := hV.sublist fun _ => List.mem_cons_of_mem road
      obtain ⟨built, cost, groups⟩ := c
      change Represents groups number V r at h
      rw [List.map_cons, Construction.run]
      by_cases hdone : untouched + groups.components ≤ 1
      · have hall := h.rel_of_components_le_one (by omega) hV
        rw [if_pos hdone, joining_eq_nil hall, joinAll_of_rel hall, addCosts]
        simp only [Except.map, Construction.selection, List.append_nil, h.components_eq]
      · rw [if_neg hdone]
        by_cases hr : r road.left road.right
        · obtain ⟨groups', hstep, hrep⟩ := h.step_of_rel hleft hright hr
          rw [hstep, joining_cons_of_rel hr, joinAll_cons, join_of_rel hr]
          exact ih hrep hV'
        · obtain ⟨groups', hrep, hstep⟩ := h.step_of_not_rel hleft hright hr
          rw [hstep, joining_cons_of_not_rel hr]
          cases hadd : Cost.add? cost road.cost with
          | none =>
              rw [addCosts_cons_of_none hadd]
              rfl
          | some sum =>
              have hrest := ih (c := ⟨road :: built, sum, groups'⟩) hrep hV'
              rw [List.reverse_cons, List.append_assoc, List.singleton_append] at hrest
              rw [addCosts_cons_of_some hadd]
              exact hrest

/-! ## Candidates -/

theorem mem_candidates : road ∈ p.candidates ↔ road ∈ p.roads ∧ road.cost < p.fallback := by
  simp [Problem.candidates]

theorem candidates_perm (p : Problem) :
    p.candidates.Perm (p.roads.filter fun road => road.cost < p.fallback) :=
  List.mergeSort_perm _ _

/-- Candidates are taken cheapest first. -/
theorem candidates_sorted (p : Problem) :
    p.candidates.Pairwise fun road other => road.cost ≤ other.cost := by
  have hoffer : (p.roads.filter fun road => road.cost < p.fallback).Pairwise fun _ _ => True :=
    List.pairwise_of_forall fun _ _ => trivial
  refine (pairwise_mergeSort_key Road.cost (fun _ _ => decide_eq_true_iff) hoffer).imp ?_
  rintro road other (hlt | ⟨heq, _⟩)
  · exact le_of_lt hlt
  · exact le_of_eq heq

theorem within_candidates (hp : Within (regionSet p.regions) p.roads) :
    Within (regionSet p.regions) p.candidates :=
  hp.sublist fun _ h => (mem_candidates.mp h).1

/-! ## Touched and untouched regions -/

/-- A region that no road touches is connected to no other. -/
theorem connection_isolated {x y : Nat} (h : connection roads x y) :
    x = y ∨ (x ∈ Numbering.touched roads ∧ y ∈ Numbering.touched roads) := by
  induction h with
  | rel x y hxy =>
      obtain ⟨road, hroad, hends⟩ := List.mem_map.mp hxy
      obtain ⟨rfl, rfl⟩ := Prod.mk.inj hends
      exact Or.inr ⟨Numbering.mem_touched.mpr ⟨road, hroad, Or.inl rfl⟩,
        Numbering.mem_touched.mpr ⟨road, hroad, Or.inr rfl⟩⟩
  | refl x => exact Or.inl rfl
  | symm x y _ ih =>
      rcases ih with rfl | ⟨hx, hy⟩
      · exact Or.inl rfl
      · exact Or.inr ⟨hy, hx⟩
  | trans x y z _ _ ihxy ihyz =>
      rcases ihxy with rfl | ⟨hx, hy⟩
      · exact ihyz
      · rcases ihyz with rfl | ⟨_, hz⟩
        · exact Or.inr ⟨hx, hy⟩
        · exact Or.inr ⟨hx, hz⟩

theorem touched_subset (hV : Within V roads) : Numbering.touched roads ⊆ V := by
  intro region hregion
  obtain ⟨road, hroad, rfl | rfl⟩ := Numbering.mem_touched.mp hregion
  · exact (hV road hroad).1
  · exact (hV road hroad).2

theorem within_touched (roads : List Road) : Within (Numbering.touched roads) roads :=
  fun road hroad => ⟨Numbering.mem_touched.mpr ⟨road, hroad, Or.inl rfl⟩,
    Numbering.mem_touched.mpr ⟨road, hroad, Or.inr rfl⟩⟩

/-- Untouched regions are groups of their own, so that it is enough to count them. -/
theorem classCount_connection (hV : Within V roads) :
    classCount (connection roads) V =
      V.card - (Numbering.touched roads).card +
        classCount (connection roads) (Numbering.touched roads) := by
  have hsub := touched_subset hV
  calc
    classCount (connection roads) V
        = classCount (connection roads)
            (Numbering.touched roads ∪ V \ Numbering.touched roads) := by
          rw [Finset.union_sdiff_of_subset hsub]
    _ = classCount (connection roads) (Numbering.touched roads) +
          (V \ Numbering.touched roads).card :=
          classCount_union_of_isolated Finset.disjoint_sdiff fun _ _ => connection_isolated
    _ = _ := by rw [Finset.card_sdiff_of_subset hsub, Nat.add_comm]

/-! ## The selection of a problem -/

namespace Problem

/-- The roads that join two groups when the candidates are taken cheapest first. -/
noncomputable def forest (p : Problem) : List Road := joining ⊥ p.candidates

/-- The number of groups into which the candidates connect all regions. -/
noncomputable def groupsLeft (p : Problem) : Nat :=
  classCount (connection p.candidates) (regionSet p.regions)

end Problem

theorem card_regionSet (regions : Nat) : (regionSet regions).card = regions := by
  simp [regionSet]

/-- The touched regions start as singletons under the numbers of their first touch. -/
theorem represents_start (roads : List Road) :
    Represents (Construction.start (Numbering.final roads).size).groups
      (fun region => (Numbering.final roads).getD region 0) (Numbering.touched roads) ⊥ := by
  have hnum := Numbering.numbers_final roads
  rw [hnum.size_eq]
  refine represents_singletons (fun x hx => ?_) fun x hx y hy hxy => ?_
  · rw [← hnum.size_eq]
    exact hnum.lt_size x _ (hnum.getElem?_eq hx)
  · refine hnum.injective x y _ (hnum.getElem?_eq hx) ?_
    rw [hnum.getElem?_eq hy]
    exact congrArg some hxy.symm

/-- The planner selects the roads of the forest, adds up their costs, and counts the groups
of all regions. -/
theorem select_eq (hp : Within (regionSet p.regions) p.roads) :
    p.select = (addCosts 0 p.forest).map fun cost => ⟨p.forest, cost, p.groupsLeft⟩ := by
  have hcount := classCount_connection (within_candidates hp)
  rw [card_regionSet, ← (Numbering.numbers_final p.candidates).size_eq] at hcount
  have hrun := (represents_start p.candidates).run
    (p.regions - (Numbering.final p.candidates).size) (within_touched p.candidates)
  rw [Problem.groupsLeft, hcount, connection_eq_joinAll]
  refine Eq.trans ?_ hrun
  rw [Problem.select, Numbering.edges_eq]
  rfl

end ProbeForest.Network
