import ProbeForest.Proofs.DisjointSet.Script
import ProbeForest.Proofs.Network.Check
import ProbeForest.Proofs.Network.Selection

/-!
# Numbers and counts stay within bounds

A problem may name more regions than anything is kept for, so the planner
works with numbers of its own and counts the rest.  The numbers of the touched
regions are exactly those below their count, and the count is at most the
number of regions: subtracting it is exact.  Disjoint sets over that many
elements are then asked for elements that they have, at every turn of building,
and the number of groups that each turn looks at, untouched regions included,
never exceeds the number of regions.

`Construction.Reaches` follows building turn by turn, whether or not it
succeeds in the end.

## Main results

* `Numbering.dense_of_within` — what numbering makes of the roads of a network.
* `Construction.Reaches.sized` — what every turn of building keeps.
* `plan_withinBounds` — both, for every problem that passes its check.
-/

namespace ProbeForest.Network

variable {p : Problem} {c next d : Construction} {edge : Edge} {ahead more : List Edge}

/-! ## Numbers -/

namespace Numbering

/-- Numbering the ends of roads between `regions` regions gives one number to each region that is
an end, and to no other; the numbers are those below their count. -/
structure Dense (regions : Nat) (roads : List Road) : Prop where
  numbered_iff : ∀ region : Nat, (∃ n, (final roads)[region]? = some n) ↔
    ∃ road ∈ roads, region = road.left ∨ region = road.right
  injective : ∀ x y n : Nat,
    (final roads)[x]? = some n → (final roads)[y]? = some n → x = y
  image : ∀ n, (∃ region : Nat, (final roads)[region]? = some n) ↔ n < (final roads).size
  /-- A number that was given on the way is the final one. -/
  stays : ∀ before behind, roads = before ++ behind → Extends (final before) (final roads)
  /-- There is an edge for every road, in the same order. -/
  roads_eq : (edges roads).1.map Edge.road = roads
  /-- Every edge holds the final numbers of its ends. -/
  ends : ∀ edge ∈ (edges roads).1, (final roads)[edge.road.left]? = some edge.left ∧
    (final roads)[edge.road.right]? = some edge.right
  ends_lt : ∀ edge ∈ (edges roads).1,
    edge.left < (final roads).size ∧ edge.right < (final roads).size
  size_le : (final roads).size ≤ min regions (2 * roads.length)

/-- Every edge holds the final numbers of its ends. -/
theorem getElem?_ends {roads : List Road} (hedge : edge ∈ (edges roads).1) :
    (final roads)[edge.road.left]? = some edge.left ∧
      (final roads)[edge.road.right]? = some edge.right := by
  have hnum := numbers_final roads
  rw [edges_eq] at hedge
  obtain ⟨road, hroad, rfl⟩ := List.mem_map.mp hedge
  obtain ⟨hleft, hright⟩ := within_touched roads road hroad
  exact ⟨hnum.getElem?_eq hleft, hnum.getElem?_eq hright⟩

theorem dense_of_within {regions : Nat} {roads : List Road}
    (hV : Within (regionSet regions) roads) : Dense regions roads := by
  have hnum := numbers_final roads
  refine
    { numbered_iff := fun region => (hnum.mem_iff region).trans mem_touched
      injective := hnum.injective
      image := fun n => hnum.exists_iff
      stays := ?_
      roads_eq := ?_
      ends := fun edge hedge => getElem?_ends hedge
      ends_lt := ?_
      size_le := ?_ }
  · rintro before behind rfl
    exact extends_final_append before behind
  · rw [edges_eq, List.map_map]
    exact List.map_id' roads
  · intro edge hedge
    obtain ⟨hleft, hright⟩ := getElem?_ends hedge
    exact ⟨hnum.lt_size _ _ hleft, hnum.lt_size _ _ hright⟩
  · have hcard := Finset.card_le_card (touched_subset hV)
    rw [card_regionSet] at hcard
    rw [hnum.size_eq]
    exact le_min hcard (card_touched_le roads)

end Numbering

/-! ## Turns of building -/

namespace Construction

variable {untouched size : Nat}

/-- Building comes from `c`, with the edges `ahead` of it, to `d` with `more` ahead.  A turn is
taken only while more than one group is left. -/
inductive Reaches (untouched : Nat) :
    (c : Construction) → (ahead : List Edge) → (d : Construction) → (more : List Edge) → Prop
  | here (c : Construction) (ahead : List Edge) : Reaches untouched c ahead c ahead
  | turn {c next d : Construction} {edge : Edge} {ahead more : List Edge}
      (hgoes : ¬ untouched + c.groups.components ≤ 1) (hstep : c.step edge = .ok next)
      (rest : Reaches untouched next ahead d more) : Reaches untouched c (edge :: ahead) d more

/-- Building ends in the same way from wherever it has come. -/
theorem Reaches.run_eq (h : Reaches untouched c ahead d more) :
    run untouched c ahead = run untouched d more := by
  induction h with
  | here _ _ => rfl
  | turn hgoes hstep _ ih =>
      rw [run, if_neg hgoes, hstep]
      exact ih

/-- Building comes to what it ends with. -/
theorem exists_reaches_of_run_eq_ok (h : run untouched c ahead = .ok d) :
    ∃ more, Reaches untouched c ahead d more := by
  induction ahead generalizing c with
  | nil =>
      obtain rfl : c = d := Except.ok.inj h
      exact ⟨[], Reaches.here c []⟩
  | cons edge ahead ih =>
      rw [run] at h
      by_cases hdone : untouched + c.groups.components ≤ 1
      · rw [if_pos hdone] at h
        obtain rfl : c = d := Except.ok.inj h
        exact ⟨edge :: ahead, Reaches.here c _⟩
      · rw [if_neg hdone] at h
        cases hstep : c.step edge with
        | error e =>
            rw [hstep] at h
            cases h
        | ok next =>
            rw [hstep] at h
            obtain ⟨more, hrest⟩ := ih h
            exact ⟨more, Reaches.turn hdone hstep hrest⟩

/-- A turn that succeeds has united the ends of its edge. -/
theorem groups_of_step_eq_ok (h : c.step edge = .ok next) :
    next.groups = (c.groups.union edge.left edge.right).2 := by
  obtain ⟨built, cost, groups⟩ := c
  simp only [step] at h
  split at h
  · rename_i hunion
    rw [hunion, ← Except.ok.inj h]
  · rename_i hunion
    split at h
    · rw [hunion, ← Except.ok.inj h]
    · cases h

/-- Sound disjoint sets of `size` elements, and edges between these elements. -/
structure Sized (size : Nat) (c : Construction) (ahead : List Edge) : Prop where
  sound : c.groups.Sound
  size_eq : c.groups.size = size
  ends_lt : ∀ edge ∈ ahead, edge.left < size ∧ edge.right < size

theorem Sized.step (hc : Sized size c (edge :: ahead)) (h : c.step edge = .ok next) :
    Sized size next ahead := by
  obtain ⟨hleft, hright⟩ := hc.ends_lt edge List.mem_cons_self
  rw [← hc.size_eq] at hleft hright
  obtain ⟨hsound, hsize⟩ := DisjointSet.union_sound hc.sound hleft hright
  rw [← groups_of_step_eq_ok h] at hsound hsize
  exact
    { sound := hsound
      size_eq := hsize.trans hc.size_eq
      ends_lt := fun other hother => hc.ends_lt other (List.mem_cons_of_mem edge hother) }

/-- Every turn of building keeps the elements and the sets sound. -/
theorem Reaches.sized (h : Reaches untouched c ahead d more) (hc : Sized size c ahead) :
    Sized size d more := by
  induction h with
  | here _ _ => exact hc
  | turn _ hstep _ ih => exact ih (hc.step hstep)

/-- No union that is still ahead meets an index out of range. -/
theorem Sized.run_union (hc : Sized size c ahead) (hedge : edge ∈ ahead) :
    (DisjointSet.Query.union edge.left edge.right).run c.groups =
      (.ok (c.groups.union edge.left edge.right).1,
        (c.groups.union edge.left edge.right).2) := by
  obtain ⟨hleft, hright⟩ := hc.ends_lt edge hedge
  rw [← hc.size_eq] at hleft hright
  exact DisjointSet.run_union hc.sound hleft hright

end Construction

/-! ## Problems -/

namespace Problem

/-- The regions that no candidate touches. -/
def untouched (p : Problem) : Nat := p.regions - (Numbering.final p.candidates).size

/-- Building for a problem comes to a construction with some edges ahead. -/
def Builds (p : Problem) (c : Construction) (ahead : List Edge) : Prop :=
  Construction.Reaches p.untouched (Construction.start (Numbering.final p.candidates).size)
    (Numbering.edges p.candidates).1 c ahead

/-- The selection of a problem, from any turn of building on. -/
theorem Builds.select_eq (h : p.Builds c ahead) :
    p.select = (Construction.run p.untouched c ahead).map
      (Construction.selection p.untouched) := by
  rw [← Construction.Reaches.run_eq h, untouched, Problem.select, Numbering.edges_eq]
  rfl

/-- What is selected is what building ends with. -/
theorem exists_builds_of_select_eq_ok {chosen : Selection} (h : p.select = .ok chosen) :
    ∃ c ahead, p.Builds c ahead ∧ c.selection p.untouched = chosen := by
  have hstart : p.Builds _ _ := Construction.Reaches.here _ _
  rw [hstart.select_eq] at h
  cases hrun : Construction.run p.untouched
      (Construction.start (Numbering.final p.candidates).size)
      (Numbering.edges p.candidates).1 with
  | error e =>
      rw [hrun] at h
      cases h
  | ok c =>
      rw [hrun] at h
      obtain ⟨ahead, hreaches⟩ := Construction.exists_reaches_of_run_eq_ok hrun
      exact ⟨c, ahead, hreaches, Except.ok.inj h⟩

end Problem

/-- A turn of building for a problem in which nothing leaves its bounds. -/
structure TurnWithinBounds (p : Problem) (c : Construction) (ahead : List Edge) : Prop where
  /-- What is left to do from here on decides the selection. -/
  select_eq : p.select = (Construction.run p.untouched c ahead).map
    (Construction.selection p.untouched)
  /-- The groups that are left are no more than the regions. -/
  groups_le : p.untouched + c.groups.components ≤ p.regions
  ends_lt : ∀ edge ∈ ahead, edge.left < c.groups.size ∧ edge.right < c.groups.size
  /-- The checked union succeeds for every edge ahead. -/
  run_union : ∀ edge ∈ ahead, (DisjointSet.Query.union edge.left edge.right).run c.groups =
    (.ok (c.groups.union edge.left edge.right).1, (c.groups.union edge.left edge.right).2)

/-- A problem for which nothing leaves its bounds while the plan is made. -/
structure WithinBounds (p : Problem) : Prop where
  numbered : Numbering.Dense p.regions p.candidates
  /-- Subtracting the touched regions from all is exact. -/
  untouched_add : p.untouched + (Numbering.final p.candidates).size = p.regions
  turn : ∀ c ahead, p.Builds c ahead → TurnWithinBounds p c ahead
  remaining_le : ∀ chosen, p.select = .ok chosen → chosen.remaining ≤ p.regions

theorem sized_start (hp : Numbering.Dense p.regions p.candidates) :
    Construction.Sized (Numbering.final p.candidates).size
      (Construction.start (Numbering.final p.candidates).size)
      (Numbering.edges p.candidates).1 where
  sound := DisjointSet.sound_singletons _
  size_eq := DisjointSet.size_singletons _
  ends_lt := hp.ends_lt

theorem turnWithinBounds (hp : Numbering.Dense p.regions p.candidates)
    (h : p.Builds c ahead) : TurnWithinBounds p c ahead := by
  have hsized := Construction.Reaches.sized h (sized_start hp)
  have hcomponents := hsized.sound.components_le
  have hsize := hp.size_le
  refine
    { select_eq := h.select_eq
      groups_le := ?_
      ends_lt := ?_
      run_union := fun edge hedge => hsized.run_union hedge }
  · rw [hsized.size_eq] at hcomponents
    unfold Problem.untouched
    omega
  · rw [hsized.size_eq]
    exact hsized.ends_lt

/-- For every problem that passes its check, numbering gives the touched regions exactly the
numbers below their count, once and for all; every union that building makes is one of elements
in range; and neither the subtraction that counts the untouched regions nor the sum that counts
the groups leaves the range from zero to the number of regions, at any turn. -/
theorem plan_withinBounds (h : p.checkRoads = .ok ()) : WithinBounds p := by
  have hp := Numbering.dense_of_within (within_candidates (checkRoads_eq_ok_iff.mp h))
  refine
    { numbered := hp
      untouched_add := ?_
      turn := fun c ahead hbuilds => turnWithinBounds hp hbuilds
      remaining_le := ?_ }
  · have hsize := hp.size_le
    unfold Problem.untouched
    omega
  · intro chosen hchosen
    obtain ⟨c, ahead, hbuilds, rfl⟩ := Problem.exists_builds_of_select_eq_ok hchosen
    exact (turnWithinBounds hp hbuilds).groups_le

/-- Four touched regions out of as many as a machine can number, with a road given in both
directions, a road from a region to itself and a road that is too dear. -/
theorem plan_withinBounds_sparse :
    (Problem.mk (2 ^ 64 - 1) 10
        [⟨5, 2, 3⟩, ⟨2, 5, 3⟩, ⟨4, 4, 1⟩, ⟨2, 2 ^ 64 - 1, 9⟩, ⟨1, 3, 10⟩]).checkRoads = .ok () ∧
      WithinBounds (Problem.mk (2 ^ 64 - 1) 10
        [⟨5, 2, 3⟩, ⟨2, 5, 3⟩, ⟨4, 4, 1⟩, ⟨2, 2 ^ 64 - 1, 9⟩, ⟨1, 3, 10⟩]) :=
  ⟨by decide, plan_withinBounds (by decide)⟩

end ProbeForest.Network
