import ProbeForest.Network.Plan
import ProbeForest.Proofs.Network.Spanning

/-!
# The check of the roads

Before anything is planned, the ends of the roads are checked in the order in
which the roads are on offer, the left end of a road before its right end,
whatever the roads cost.  The check fails at the first end that is no region
of the problem, and names it.  The condition is stated by the position of that
end; that the check goes through the list from the front is left to the proof.

## Main results

* `exists_firstMissing_iff` — some end is the first one missing unless all ends exist.
* `checkRoads_of_firstMissing` — the road and the region that a failed check names.
* `checkRoads_eq_ok_iff` — when a problem passes its check.
-/

namespace ProbeForest.Network

variable {p : Problem} {road : Road} {roads : List Road} {position region : Nat}

/-! ## Missing regions -/

/-- The problem has no region of this number. -/
def Problem.Missing (p : Problem) (region : Nat) : Prop := region = 0 ∨ p.regions < region

instance Problem.decidableMissing (p : Problem) (region : Nat) : Decidable (p.Missing region) :=
  inferInstanceAs (Decidable (region = 0 ∨ p.regions < region))

/-- Both ends of a road are regions of the problem. -/
def Problem.HasEnds (p : Problem) (road : Road) : Prop :=
  ¬ p.Missing road.left ∧ ¬ p.Missing road.right

/-- The first road of a list that has an end missing is at `position`, and `region` is that end,
the left one if both are missing. -/
structure FirstMissing (p : Problem) (roads : List Road) (position region : Nat) : Prop where
  missing : p.Missing region
  named : ∃ road, roads[position]? = some road ∧
    (region = road.left ∨ (¬ p.Missing road.left ∧ region = road.right))
  before : ∀ road ∈ roads.take position, p.HasEnds road

theorem mem_regionSet_iff : region ∈ regionSet p.regions ↔ ¬ p.Missing region := by
  rw [regionSet, Finset.mem_Icc, Problem.Missing]
  omega

theorem within_iff : Within (regionSet p.regions) roads ↔ ∀ road ∈ roads, p.HasEnds road := by
  simp only [Within, mem_regionSet_iff, Problem.HasEnds]

theorem strayRegion?_eq (p : Problem) (road : Road) :
    p.strayRegion? road =
      if p.Missing road.left then some road.left
      else if p.Missing road.right then some road.right
      else none := by
  unfold Problem.strayRegion? Problem.Missing
  by_cases hleft : road.left = 0 ∨ p.regions < road.left
  · simp [hleft]
  · by_cases hright : road.right = 0 ∨ p.regions < road.right
    · simp [hleft, hright]
    · simp [hleft, hright]

theorem strayRegion?_eq_some_iff :
    p.strayRegion? road = some region ↔
      p.Missing region ∧ (region = road.left ∨ (¬ p.Missing road.left ∧ region = road.right)) := by
  rw [strayRegion?_eq]
  by_cases hleft : p.Missing road.left
  · rw [if_pos hleft, Option.some.injEq]
    constructor
    · rintro rfl
      exact ⟨hleft, Or.inl rfl⟩
    · rintro ⟨_, rfl | ⟨hends, _⟩⟩
      · rfl
      · exact absurd hleft hends
  · rw [if_neg hleft, Option.ite_none_right_eq_some, Option.some.injEq]
    constructor
    · rintro ⟨hright, rfl⟩
      exact ⟨hright, Or.inr ⟨hleft, rfl⟩⟩
    · rintro ⟨hmissing, rfl | ⟨_, rfl⟩⟩
      · exact absurd hmissing hleft
      · exact ⟨hmissing, rfl⟩

theorem strayRegion?_eq_none_iff : p.strayRegion? road = none ↔ p.HasEnds road := by
  rw [strayRegion?_eq, Problem.HasEnds]
  by_cases hleft : p.Missing road.left
  · simp [hleft]
  · simp [hleft]

/-! ## The first missing end -/

theorem firstMissing_cons_zero :
    FirstMissing p (road :: roads) 0 region ↔ p.strayRegion? road = some region := by
  rw [strayRegion?_eq_some_iff]
  constructor
  · rintro ⟨hmissing, ⟨first, hfirst, hnamed⟩, _⟩
    obtain rfl : road = first := Option.some.inj hfirst
    exact ⟨hmissing, hnamed⟩
  · rintro ⟨hmissing, hnamed⟩
    exact ⟨hmissing, ⟨road, rfl, hnamed⟩, by simp⟩

theorem firstMissing_cons_succ :
    FirstMissing p (road :: roads) (position + 1) region ↔
      p.HasEnds road ∧ FirstMissing p roads position region := by
  constructor
  · rintro ⟨hmissing, hnamed, hbefore⟩
    rw [List.take_succ_cons, List.forall_mem_cons] at hbefore
    exact ⟨hbefore.1, hmissing, hnamed, hbefore.2⟩
  · rintro ⟨hends, hmissing, hnamed, hbefore⟩
    refine ⟨hmissing, hnamed, ?_⟩
    rw [List.take_succ_cons, List.forall_mem_cons]
    exact ⟨hends, hbefore⟩

/-- Unless all ends exist, one of them is the first that does not. -/
theorem exists_firstMissing_iff :
    (∃ position region, FirstMissing p roads position region) ↔
      ∃ road ∈ roads, ¬ p.HasEnds road := by
  constructor
  · rintro ⟨position, region, hmissing, ⟨road, hroad, hnamed⟩, _⟩
    refine ⟨road, List.mem_of_getElem? hroad, ?_⟩
    rintro ⟨hleft, hright⟩
    rcases hnamed with rfl | ⟨_, rfl⟩
    · exact hleft hmissing
    · exact hright hmissing
  · rintro ⟨road, hroad, hends⟩
    induction roads with
    | nil => cases hroad
    | cons first rest ih =>
        cases hstray : p.strayRegion? first with
        | some region => exact ⟨0, region, firstMissing_cons_zero.mpr hstray⟩
        | none =>
            have hfirst := strayRegion?_eq_none_iff.mp hstray
            rcases List.mem_cons.mp hroad with rfl | hroad
            · exact absurd hfirst hends
            · obtain ⟨position, region, hlater⟩ := ih hroad
              exact ⟨position + 1, region, firstMissing_cons_succ.mpr ⟨hfirst, hlater⟩⟩

theorem exists_firstMissing_of_not_within (h : ¬ Within (regionSet p.regions) roads) :
    ∃ position region, FirstMissing p roads position region := by
  rw [exists_firstMissing_iff]
  simpa [within_iff] using h

/-! ## Checking -/

private theorem checkRoads_go_of_firstMissing (start : Nat)
    (h : FirstMissing p roads position region) :
    Problem.checkRoads.go p start roads =
      .error (.invalidRegion (start + position) region p.regions) := by
  induction roads generalizing start position with
  | nil =>
      obtain ⟨road, hroad, _⟩ := h.named
      cases hroad
  | cons road roads ih =>
      rw [Problem.checkRoads.go]
      cases position with
      | zero =>
          rw [firstMissing_cons_zero.mp h]
          rfl
      | succ position =>
          obtain ⟨hends, hlater⟩ := firstMissing_cons_succ.mp h
          rw [strayRegion?_eq_none_iff.mpr hends]
          show Problem.checkRoads.go p (start + 1) roads = _
          rw [ih (start + 1) hlater, Nat.add_right_comm, Nat.add_assoc]

private theorem checkRoads_go_of_hasEnds (start : Nat) (h : ∀ road ∈ roads, p.HasEnds road) :
    Problem.checkRoads.go p start roads = .ok () := by
  induction roads generalizing start with
  | nil => rfl
  | cons road roads ih =>
      rw [Problem.checkRoads.go, strayRegion?_eq_none_iff.mpr (h road List.mem_cons_self)]
      exact ih (start + 1) fun other hother => h other (List.mem_cons_of_mem road hother)

/-- A failed check names the first road with a missing end, and that end. -/
theorem checkRoads_of_firstMissing (h : FirstMissing p p.roads position region) :
    p.checkRoads = .error (.invalidRegion position region p.regions) := by
  have hgo := checkRoads_go_of_firstMissing 0 h
  rwa [Nat.zero_add] at hgo

/-- A problem passes its check exactly if all roads join regions that exist. -/
theorem checkRoads_eq_ok_iff : p.checkRoads = .ok () ↔ Within (regionSet p.regions) p.roads := by
  constructor
  · intro h
    by_contra hwithin
    obtain ⟨position, region, hfirst⟩ := exists_firstMissing_of_not_within hwithin
    rw [checkRoads_of_firstMissing hfirst] at h
    cases h
  · intro h
    exact checkRoads_go_of_hasEnds 0 (within_iff.mp h)

/-- Nothing is planned if the check fails. -/
theorem plan_of_firstMissing (h : FirstMissing p p.roads position region) :
    p.plan = .error (.invalidRegion position region p.regions) := by
  rw [Problem.plan, checkRoads_of_firstMissing h]
  rfl

/-- Without regions that exist there is no plan. -/
theorem plan_of_not_within (hp : ¬ Within (regionSet p.regions) p.roads) :
    ∃ road region, p.plan = .error (.invalidRegion road region p.regions) := by
  obtain ⟨position, region, hfirst⟩ := exists_firstMissing_of_not_within hp
  exact ⟨position, region, plan_of_firstMissing hfirst⟩

end ProbeForest.Network
