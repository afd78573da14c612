import ProbeForest.Proofs.Network.SpanningForest
import ProbeForest.Proofs.StableSort

/-!
# Roads in turn

The planner takes cheaper roads earlier, and roads of one cost in the order in
which they are on offer; this gives every position of the list of roads its
turn.  A road that costs less than the fallback is built exactly if the roads
with earlier turns leave its ends apart.  That does not depend on the
fallback, which only tells where the turns end: with a higher fallback the
planner goes on where it stopped before.

## Main results

* `candidates_eq_map_turnsBelow` — the candidates are the affordable positions in turn.
* `joining_map_turns` — what is picked at every turn, told from the roads before it.
* `plan_acceptedInTurn` — which roads a plan builds, and in which order.
* `plan_roads_isPrefix` — raising the fallback only extends a plan.
-/

namespace ProbeForest.Network

open ProbeForest.Partition ProbeForest.StableSort

variable {p : Problem} {roads : List Road} {bound bound' : Int} {i j : Fin roads.length}

/-! ## Turns -/

/-- When the road at a position is taken: by its cost, then by its position. -/
def turn (roads : List Road) (i : Fin roads.length) : Int ×ₗ Fin roads.length :=
  toLex ((roads.get i).cost, i)

theorem turn_lt_iff :
    turn roads i < turn roads j ↔
      (roads.get i).cost < (roads.get j).cost ∨
        ((roads.get i).cost = (roads.get j).cost ∧ i < j) :=
  Prod.Lex.toLex_lt_toLex

theorem cost_le_of_turn_lt (h : turn roads i < turn roads j) :
    (roads.get i).cost ≤ (roads.get j).cost := by
  rcases turn_lt_iff.mp h with hlt | ⟨heq, _⟩
  · exact le_of_lt hlt
  · exact le_of_eq heq

/-- The positions of a list have their turns one after another. -/
def InTurn (roads : List Road) (is : List (Fin roads.length)) : Prop :=
  is.Pairwise fun i j => turn roads i < turn roads j

/-- Positions in turn are told by their members. -/
theorem InTurn.eq_of_mem_iff {is js : List (Fin roads.length)} (his : InTurn roads is)
    (hjs : InTurn roads js) (h : ∀ i, i ∈ is ↔ i ∈ js) : is = js := by
  have : Std.Asymm fun i j : Fin roads.length => turn roads i < turn roads j :=
    ⟨fun _ _ => lt_asymm⟩
  exact List.Pairwise.eq_of_mem_iff his hjs h

theorem InTurn.filter {is : List (Fin roads.length)} (h : InTurn roads is)
    (keep : Fin roads.length → Bool) : InTurn roads (is.filter keep) :=
  List.Pairwise.filter keep h

/-- The positions of the roads that cost less than a bound, in turn. -/
def turnsBelow (roads : List Road) (bound : Int) : List (Fin roads.length) :=
  ((List.finRange roads.length).filter fun i => (roads.get i).cost < bound).mergeSort
    fun i j => (roads.get i).cost ≤ (roads.get j).cost

theorem mem_turnsBelow : i ∈ turnsBelow roads bound ↔ (roads.get i).cost < bound := by
  simp [turnsBelow]

theorem turnsBelow_inTurn (roads : List Road) (bound : Int) :
    InTurn roads (turnsBelow roads bound) := by
  have hoffer : ((List.finRange roads.length).filter
      fun i => (roads.get i).cost < bound).Pairwise (· < ·) :=
    (List.pairwise_lt_finRange roads.length).filter _
  refine (pairwise_mergeSort_key (fun i => (roads.get i).cost)
    (fun i j => decide_eq_true_iff) hoffer).imp ?_
  intro i j h
  exact turn_lt_iff.mpr h

/-- A higher bound adds turns at the end. -/
theorem turnsBelow_isPrefix (h : bound ≤ bound') :
    turnsBelow roads bound <+: turnsBelow roads bound' := by
  refine ⟨(turnsBelow roads bound').filter fun i => bound ≤ (roads.get i).cost, ?_⟩
  have hadded := (turnsBelow_inTurn roads bound').filter fun i => bound ≤ (roads.get i).cost
  have hjoined : InTurn roads (turnsBelow roads bound ++
      (turnsBelow roads bound').filter fun i => bound ≤ (roads.get i).cost) := by
    refine List.pairwise_append.mpr ⟨turnsBelow_inTurn roads bound, hadded, ?_⟩
    intro i hi j hj
    have hi' := mem_turnsBelow.mp hi
    have hj' := of_decide_eq_true (List.mem_filter.mp hj).2
    exact turn_lt_iff.mpr (Or.inl (lt_of_lt_of_le hi' hj'))
  refine hjoined.eq_of_mem_iff (turnsBelow_inTurn roads bound') fun i => ?_
  rw [List.mem_append, List.mem_filter, mem_turnsBelow, mem_turnsBelow, decide_eq_true_iff]
  omega

/-- The candidates are the roads at the affordable positions, in turn. -/
theorem candidates_eq_map_turnsBelow (p : Problem) :
    p.candidates = (turnsBelow p.roads p.fallback).map p.roads.get := by
  have hoffer : p.roads.filter (fun road => road.cost < p.fallback) =
      ((List.finRange p.roads.length).filter fun i => (p.roads.get i).cost < p.fallback).map
        p.roads.get := by
    conv_lhs => rw [← List.map_get_finRange p.roads]
    rw [List.filter_map]
    rfl
  rw [Problem.candidates, hoffer, turnsBelow]
  refine (List.map_mergeSort ?_).symm
  intro i _ j _
  rfl

/-! ## What is picked at every turn -/

/-- The positions that have their turn before a position. -/
def earlier (roads : List Road) (i : Fin roads.length) : Finset (Fin roads.length) :=
  Finset.univ.filter fun j => turn roads j < turn roads i

/-- The road at a position joins two regions that the roads with earlier turns leave apart. -/
def JoinsApart (roads : List Road) (i : Fin roads.length) : Prop :=
  ¬ connection (roadsAt roads (earlier roads i)) (roads.get i).left (roads.get i).right

/-- The roads before a position in turn are all roads with an earlier turn. -/
theorem connection_earlier {before behind : List (Fin roads.length)}
    (heq : turnsBelow roads bound = before ++ i :: behind) :
    connection (roadsAt roads (earlier roads i)) = joinAll ⊥ (before.map roads.get) := by
  have hturns : List.Pairwise _ (turnsBelow roads bound) := turnsBelow_inTurn roads bound
  have hi : i ∈ turnsBelow roads bound := heq ▸ List.mem_append_right before List.mem_cons_self
  rw [heq, List.pairwise_append, List.pairwise_cons] at hturns
  obtain ⟨_, ⟨hbehind, _⟩, hbefore⟩ := hturns
  have hmem : ∀ j, j ∈ before ↔ turn roads j < turn roads i := by
    intro j
    constructor
    · intro hj
      exact hbefore j hj i List.mem_cons_self
    · intro hlt
      have hcheap : (roads.get j).cost < bound :=
        lt_of_le_of_lt (cost_le_of_turn_lt hlt) (mem_turnsBelow.mp hi)
      have hj : j ∈ before ++ i :: behind := heq ▸ mem_turnsBelow.mpr hcheap
      rcases List.mem_append.mp hj with hj | hj
      · exact hj
      · rcases List.mem_cons.mp hj with rfl | hj
        · exact absurd hlt (lt_irrefl _)
        · exact absurd hlt (lt_asymm (hbehind j hj))
  rw [connection_eq_joinAll]
  refine joinAll_congr fun road => ?_
  simp only [roadsAt, List.mem_map, mem_positions, earlier, Finset.mem_filter, Finset.mem_univ,
    true_and, hmem]

open Classical in
/-- What is picked at the turns of a list, when the turns before it have been taken. -/
theorem joining_map_turns (before behind : List (Fin roads.length))
    (heq : turnsBelow roads bound = before ++ behind) :
    joining (joinAll ⊥ (before.map roads.get)) (behind.map roads.get) =
      (behind.filter fun i => JoinsApart roads i).map roads.get := by
  induction behind generalizing before with
  | nil => rfl
  | cons i behind ih =>
      have hrest := ih (before ++ [i]) (by rw [heq, List.append_assoc]; rfl)
      rw [List.map_append, joinAll_append] at hrest
      have hbefore := connection_earlier heq
      rw [List.map_cons]
      by_cases hi : JoinsApart roads i
      · have hapart := hi
        rw [JoinsApart, hbefore] at hapart
        rw [joining_cons_of_not_rel hapart, List.filter_cons_of_pos (by simpa using hi),
          List.map_cons, ← hrest]
        rfl
      · -- A road that joins nothing leaves the groups as they are.
        have hjoined := hi
        rw [JoinsApart, hbefore, not_not] at hjoined
        rw [joining_cons_of_rel hjoined, List.filter_cons_of_neg (by simpa using hi), ← hrest]
        exact congrArg (joining · _) (join_of_rel hjoined).symm

open Classical in
/-- The forest of a problem consists of the affordable roads that join regions left apart, in
turn. -/
theorem forest_eq_map_turns (p : Problem) :
    p.forest =
      ((turnsBelow p.roads p.fallback).filter fun i => JoinsApart p.roads i).map p.roads.get := by
  rw [Problem.forest, candidates_eq_map_turnsBelow]
  exact joining_map_turns [] (turnsBelow p.roads p.fallback) rfl

/-! ## Accepted roads -/

/-- The road at a position is accepted: it costs less than the fallback, and no path of roads with
earlier turns joins its ends. -/
def Problem.Accepted (p : Problem) (i : Fin p.roads.length) : Prop :=
  (p.roads.get i).cost < p.fallback ∧ JoinsApart p.roads i

/-- Two roads between the same two regions. -/
def Road.Parallel (road other : Road) : Prop :=
  (other.left = road.left ∧ other.right = road.right) ∨
    (other.left = road.right ∧ other.right = road.left)

theorem not_joinsApart_of_loop (h : (roads.get i).left = (roads.get i).right) :
    ¬ JoinsApart roads i := by
  intro happart
  apply happart
  rw [h]

theorem not_joinsApart_of_parallel (hlt : turn roads j < turn roads i)
    (h : (roads.get i).Parallel (roads.get j)) : ¬ JoinsApart roads i := by
  have hearlier : roads.get j ∈ roadsAt roads (earlier roads i) := by
    refine List.mem_map_of_mem (mem_positions.mpr ?_)
    simpa [earlier] using hlt
  have hjoined := joinAll_rel_of_mem (r := ⊥) hearlier
  rw [JoinsApart, not_not, connection_eq_joinAll]
  rcases h with ⟨hleft, hright⟩ | ⟨hleft, hright⟩
  · rwa [hleft, hright] at hjoined
  · rw [hleft, hright] at hjoined
    exact Setoid.symm' _ hjoined

/-- A plan that builds the accepted roads in turn. -/
structure AcceptedInTurn (p : Problem) (plan : Plan) : Prop where
  /-- The roads of the plan are those at the accepted positions, in turn. -/
  roads : ∃ order : List (Fin p.roads.length), InTurn p.roads order ∧
    (∀ i, i ∈ order ↔ p.Accepted i) ∧ plan.roads = order.map p.roads.get
  /-- A road from a region to itself is never accepted. -/
  loops : ∀ i, (p.roads.get i).left = (p.roads.get i).right → ¬ p.Accepted i
  /-- Of parallel roads at most the one with the first turn is accepted. -/
  parallel : ∀ i j, turn p.roads j < turn p.roads i → (p.roads.get i).Parallel (p.roads.get j) →
    ¬ p.Accepted i

/-- A plan builds exactly the roads that cost less than the fallback and whose ends no roads with
earlier turns join, each at its turn. -/
theorem plan_acceptedInTurn (p : Problem) (plan : Plan) (h : p.plan = .ok plan) :
    AcceptedInTurn p plan where
  roads := by
    classical
    obtain ⟨_, rfl⟩ := plan_eq_ok h
    refine ⟨(turnsBelow p.roads p.fallback).filter fun i => JoinsApart p.roads i,
      (turnsBelow_inTurn p.roads p.fallback).filter _, fun i => ?_, ?_⟩
    · rw [List.mem_filter, mem_turnsBelow, decide_eq_true_iff]
      rfl
    · exact forest_eq_map_turns p
  loops _ hloop haccepted := not_joinsApart_of_loop hloop haccepted.2
  parallel _ _ hlt hparallel haccepted := not_joinsApart_of_parallel hlt hparallel haccepted.2

/-- Of the parallel roads the first is built, the road from a region to itself is not, and the
road at the fourth position is built first. -/
theorem plan_acceptedInTurn_crossing :
    crossing.plan = .ok ⟨[⟨2, 3, 4⟩, ⟨1, 2, 5⟩], 9, 2, 10, 29⟩ ∧
      AcceptedInTurn crossing ⟨[⟨2, 3, 4⟩, ⟨1, 2, 5⟩], 9, 2, 10, 29⟩ :=
  ⟨plan_crossing, plan_acceptedInTurn crossing _ plan_crossing⟩

/-! ## Raising the fallback -/

/-- A problem with another fallback. -/
def Problem.withFallback (p : Problem) (fallback : Int) : Problem :=
  { p with fallback := fallback }

/-- A higher fallback adds roads at the end of the forest. -/
theorem forest_isPrefix {fallback : Int} (h : p.fallback ≤ fallback) :
    p.forest <+: (p.withFallback fallback).forest := by
  classical
  rw [forest_eq_map_turns, forest_eq_map_turns]
  exact ((turnsBelow_isPrefix h).filter _).map _

/-- If there is a plan for a fallback and one for a higher fallback, the second builds all roads
of the first, in the same order, before any other, and leaves no more groups. -/
theorem plan_roads_isPrefix (p : Problem) (fallback : Int) (plan plan' : Plan)
    (hle : p.fallback ≤ fallback) (h : p.plan = .ok plan)
    (h' : (p.withFallback fallback).plan = .ok plan') :
    plan.roads <+: plan'.roads ∧ plan'.remaining ≤ plan.remaining := by
  obtain ⟨hp, rfl⟩ := plan_eq_ok h
  obtain ⟨hp', rfl⟩ := plan_eq_ok h'
  have hextends := forest_isPrefix hle
  refine ⟨hextends, ?_⟩
  -- Roads and groups make up the regions, so more roads leave fewer groups.
  have hcount := length_forest_add_groupsLeft hp
  have hcount' := length_forest_add_groupsLeft hp'
  have hlength := hextends.length_le
  show (p.withFallback fallback).groupsLeft ≤ p.groupsLeft
  change _ = p.regions at hcount'
  omega

theorem plan_crossing_dear :
    (crossing.withFallback 13).plan =
      .ok ⟨[⟨2, 3, 4⟩, ⟨1, 2, 5⟩, ⟨3, 4, 12⟩], 21, 1, 13, 34⟩ := by
  have hcheck : (crossing.withFallback 13).checkRoads = .ok () := by decide
  have hcandidates : (crossing.withFallback 13).candidates =
      [⟨3, 3, 2⟩, ⟨2, 3, 4⟩, ⟨1, 2, 5⟩, ⟨2, 1, 5⟩, ⟨3, 4, 12⟩] := by
    simp [crossing, Problem.withFallback, Problem.candidates, List.mergeSort]
  rw [Problem.plan, hcheck, select_eq_foldlM (checkRoads_eq_ok_iff.mp hcheck), hcandidates]
  decide +kernel

/-- With a higher fallback the dear road is built as well, after the others. -/
theorem plan_roads_isPrefix_crossing :
    crossing.fallback ≤ 13 ∧
      crossing.plan = .ok ⟨[⟨2, 3, 4⟩, ⟨1, 2, 5⟩], 9, 2, 10, 29⟩ ∧
      (crossing.withFallback 13).plan =
        .ok ⟨[⟨2, 3, 4⟩, ⟨1, 2, 5⟩, ⟨3, 4, 12⟩], 21, 1, 13, 34⟩ ∧
      ([⟨2, 3, 4⟩, ⟨1, 2, 5⟩] : List Road) <+: [⟨2, 3, 4⟩, ⟨1, 2, 5⟩, ⟨3, 4, 12⟩] ∧ 1 ≤ 2 :=
  ⟨by decide, plan_crossing, plan_crossing_dear,
    plan_roads_isPrefix crossing 13 _ _ (by decide) plan_crossing plan_crossing_dear⟩

end ProbeForest.Network
