import ProbeForest.Network.Road
import ProbeForest.Proofs.Partition

/-!
# Roads that span a network

Roads partition the regions into connected groups.  A list of roads is
independent above a partition if each of its roads joins two groups that the
partition and the roads before it keep apart; above the finest partition these
are the lists without cycles.  `joining` picks an independent part of a list
that connects as much as the whole list.

## Main results

* `Independent.perm` — independence does not depend on the order of the roads.
* `Independent.exists_exchange` — the exchange property: a road that an
  independent list already connects may take the place of some road of it.
* `joining_independent`, `joinAll_joining` — the picked roads are independent
  and connect exactly what all roads connect.
* `Independent.classCount_add_length` — every independent road takes one group
  away.
-/

namespace ProbeForest.Network

open ProbeForest.Partition

variable {r : Setoid Nat} {road : Road} {roads more : List Road}

/-! ## Groups of regions -/

/-- The two regions of a road. -/
def Road.ends (road : Road) : Nat × Nat := (road.left, road.right)

/-- The partition after the groups at the ends of a road have been joined. -/
def Road.join (road : Road) (r : Setoid Nat) : Setoid Nat := merge r road.left road.right

/-- The partition after the groups at the ends of all roads have been joined. -/
def joinAll (r : Setoid Nat) (roads : List Road) : Setoid Nat := mergeAll r (roads.map Road.ends)

/-- Connection by roads: the smallest equivalence that relates the ends of every road. -/
def connection (roads : List Road) : Setoid Nat := generated (roads.map Road.ends)

/-- The regions of a network, numbered from one. -/
def regionSet (regions : Nat) : Finset Nat := Finset.Icc 1 regions

/-- Both ends of all roads are regions of `V`. -/
def Within (V : Finset Nat) (roads : List Road) : Prop :=
  ∀ road ∈ roads, road.left ∈ V ∧ road.right ∈ V

theorem Within.sublist {V : Finset Nat} (h : Within V roads) (hsub : ∀ road ∈ more, road ∈ roads) :
    Within V more :=
  fun road hroad => h road (hsub road hroad)

theorem connection_eq_joinAll (roads : List Road) : connection roads = joinAll ⊥ roads :=
  generated_eq_mergeAll _

@[simp] theorem joinAll_nil (r : Setoid Nat) : joinAll r [] = r := rfl

@[simp] theorem joinAll_cons (r : Setoid Nat) (road : Road) (roads : List Road) :
    joinAll r (road :: roads) = joinAll (road.join r) roads := rfl

theorem joinAll_append (r : Setoid Nat) (roads more : List Road) :
    joinAll r (roads ++ more) = joinAll (joinAll r roads) more := by
  rw [joinAll, List.map_append, mergeAll_append]
  rfl

/-- Which regions are connected does not depend on the order of the roads. -/
theorem joinAll_congr (h : ∀ road, road ∈ roads ↔ road ∈ more) :
    joinAll r roads = joinAll r more := by
  refine mergeAll_congr fun pair => ?_
  simp only [List.mem_map, h]

theorem joinAll_of_rel (h : ∀ road ∈ roads, r road.left road.right) : joinAll r roads = r := by
  refine mergeAll_of_rel ?_
  simpa [Road.ends] using h

theorem joinAll_le_iff {t : Setoid Nat} :
    joinAll r roads ≤ t ↔ r ≤ t ∧ ∀ road ∈ roads, t road.left road.right := by
  rw [joinAll, mergeAll_le_iff]
  simp [Road.ends]

theorem joinAll_rel_of_mem (h : road ∈ roads) : joinAll r roads road.left road.right :=
  (joinAll_le_iff.mp (le_refl _)).2 road h

theorem joinAll_mono (h : ∀ road ∈ roads, road ∈ more) : joinAll r roads ≤ joinAll r more :=
  joinAll_le_iff.mpr ⟨(joinAll_le_iff.mp (le_refl _)).1, fun road hroad =>
    joinAll_rel_of_mem (h road hroad)⟩

theorem Road.join_comm (r : Setoid Nat) (road other : Road) :
    road.join (other.join r) = other.join (road.join r) :=
  merge_comm r other.left other.right road.left road.right

/-! ## Independent roads -/

/-- Every road joins two groups that `r` and the roads before it keep apart. -/
def Independent (r : Setoid Nat) : List Road → Prop
  | [] => True
  | road :: roads => ¬ r road.left road.right ∧ Independent (road.join r) roads

@[simp] theorem independent_nil (r : Setoid Nat) : Independent r [] := trivial

theorem independent_cons :
    Independent r (road :: roads) ↔
      ¬ r road.left road.right ∧ Independent (road.join r) roads := Iff.rfl

theorem independent_append :
    Independent r (roads ++ more) ↔ Independent r roads ∧ Independent (joinAll r roads) more := by
  induction roads generalizing r with
  | nil => simp
  | cons road roads ih =>
      rw [List.cons_append, independent_cons, independent_cons, ih, joinAll_cons, and_assoc]

/-- Two roads that a partition keeps apart one by one join the same groups if one
connects the ends of the other. -/
theorem join_eq_join_of_rel {other : Road} (hr : ¬ r road.left road.right)
    (h : other.join r road.left road.right) : road.join r = other.join r :=
  merge_eq_merge_of_rel hr h

theorem not_rel_of_independent_pair {other : Road} (hroad : ¬ r road.left road.right)
    (hother : ¬ road.join r other.left other.right) :
    ¬ r other.left other.right ∧ ¬ other.join r road.left road.right := by
  have hold : ¬ r other.left other.right := fun h => hother (le_merge r _ _ h)
  refine ⟨hold, fun h => hother ?_⟩
  rw [join_eq_join_of_rel hroad h]
  exact merge_pair r _ _

/-- Independence does not depend on the order of the roads. -/
theorem Independent.perm (h : Independent r roads) (hperm : roads.Perm more) :
    Independent r more := by
  induction hperm generalizing r with
  | nil => trivial
  | cons road _ ih => exact ⟨h.1, ih h.2⟩
  | swap road other roads =>
      obtain ⟨hother, hroad, hrest⟩ := h
      obtain ⟨hroad', hother'⟩ := not_rel_of_independent_pair hother hroad
      refine ⟨hroad', hother', ?_⟩
      rwa [Road.join_comm]
  | trans _ _ ih ih' => exact ih' (ih h)

/-- The exchange property.  If independent roads connect the ends of `road`, which are
apart in `r`, then one of them can be left out once `road` has been built. -/
theorem Independent.exists_exchange (h : Independent r roads) (hroad : ¬ r road.left road.right)
    (hconn : joinAll r roads road.left road.right) :
    ∃ before out behind, roads = before ++ out :: behind ∧
      Independent (road.join r) (before ++ behind) := by
  induction roads generalizing r with
  | nil => exact absurd hconn hroad
  | cons first rest ih =>
      obtain ⟨hfirst, hrest⟩ := h
      by_cases hnew : first.join r road.left road.right
      · -- The first road connects the ends, so it joins the same groups as `road`.
        refine ⟨[], first, rest, rfl, ?_⟩
        rwa [List.nil_append, join_eq_join_of_rel hroad hnew]
      · obtain ⟨before, out, behind, rfl, hind⟩ := ih hrest hnew hconn
        obtain ⟨_, hfirst'⟩ := not_rel_of_independent_pair hfirst hnew
        refine ⟨first :: before, out, behind, rfl, hfirst', ?_⟩
        rwa [Road.join_comm]

/-- Every independent road takes one group away. -/
theorem Independent.classCount_add_length {V : Finset Nat} (h : Independent r roads)
    (hV : Within V roads) :
    classCount (joinAll r roads) V + roads.length = classCount r V := by
  induction roads generalizing r with
  | nil => rfl
  | cons road roads ih =>
      have hends := hV road List.mem_cons_self
      have hstep : classCount (road.join r) V + 1 = classCount r V :=
        classCount_merge hends.1 hends.2 h.1
      have hrest := ih h.2 (hV.sublist fun _ => List.mem_cons_of_mem road)
      rw [joinAll_cons, List.length_cons]
      omega

/-! ## Picking independent roads -/

open Classical in
/-- The roads that join two groups when all roads are taken in order, starting from `r`. -/
noncomputable def joining (r : Setoid Nat) : List Road → List Road
  | [] => []
  | road :: roads =>
    if r road.left road.right then joining r roads else road :: joining (road.join r) roads

theorem joining_cons_of_rel (h : r road.left road.right) :
    joining r (road :: roads) = joining r roads := if_pos h

theorem joining_cons_of_not_rel (h : ¬ r road.left road.right) :
    joining r (road :: roads) = road :: joining (road.join r) roads := if_neg h

theorem join_of_rel (h : r road.left road.right) : road.join r = r := merge_of_rel h

theorem joining_sublist (r : Setoid Nat) (roads : List Road) :
    (joining r roads).Sublist roads := by
  induction roads generalizing r with
  | nil => exact List.Sublist.refl []
  | cons road roads ih =>
      by_cases h : r road.left road.right
      · rw [joining_cons_of_rel h]
        exact (ih r).cons road
      · rw [joining_cons_of_not_rel h]
        exact (ih (road.join r)).cons_cons road

theorem joining_independent (r : Setoid Nat) (roads : List Road) :
    Independent r (joining r roads) := by
  induction roads generalizing r with
  | nil => trivial
  | cons road roads ih =>
      by_cases h : r road.left road.right
      · rw [joining_cons_of_rel h]
        exact ih r
      · rw [joining_cons_of_not_rel h]
        exact ⟨h, ih (road.join r)⟩

/-- The picked roads connect exactly what all roads connect. -/
theorem joinAll_joining (r : Setoid Nat) (roads : List Road) :
    joinAll r (joining r roads) = joinAll r roads := by
  induction roads generalizing r with
  | nil => rfl
  | cons road roads ih =>
      by_cases h : r road.left road.right
      · rw [joining_cons_of_rel h, ih, joinAll_cons, join_of_rel h]
      · rw [joining_cons_of_not_rel h, joinAll_cons, joinAll_cons, ih]

/-- When all regions are connected, no road joins two groups any more. -/
theorem joining_eq_nil (h : ∀ road ∈ roads, r road.left road.right) : joining r roads = [] := by
  induction roads with
  | nil => rfl
  | cons road roads ih =>
      rw [joining_cons_of_rel (h road List.mem_cons_self)]
      exact ih fun other hother => h other (List.mem_cons_of_mem road hother)

end ProbeForest.Network
