import ProbeForest.Proofs.Table.Series

/-!
# The order of insertions

Keys that are inserted in another order may end in other slots, after other
numbers of steps.  But which slots are taken does not change, and neither does
the sum of the steps.  Both follow from two neighbours changing places.  If
they do not want the same slot, neither notices the other.  If they do, the
one that comes second goes on from there to the next free slot, and that is
the same slot, the same number of steps further on, whichever of the two it
is.

`SameShape` compares tables without their keys.  An insertion looks only at
the shape, so that the insertions that follow two exchanged ones go on alike.

## Main results

* `SameShape.insert` — an insertion sees only the shape of a table.
* `StopsFirst.meet` — two walks that have met go on together.
* `WellFormed.swaps` — of two neighbouring insertions either may come first.
* `WellFormed.sameShape_insertAll`, `WellFormed.totalSteps_insertAll` — so the
  slots and the sum of the steps do not depend on the order of many.
* `fillAlike_of_perm` — both, said of tables that calls have made, with the
  failures and the keys.
-/

namespace ProbeForest.Table

variable {t t' t'' : Table} {key other : String} {keys keys' : List String}
  {stops : Slot → Bool} {index offset : Nat}

/-! ## Shapes -/

/-- What can be told of a slot without its key. -/
inductive Slot.State where
  | empty
  | tombstone
  | occupied
deriving DecidableEq, Repr

/-- The state of a slot. -/
def Slot.state : Slot → Slot.State
  | empty => .empty
  | tombstone => .tombstone
  | occupied _ => .occupied

theorem Slot.isFree_eq (slot : Slot) : slot.isFree = (slot.state != .occupied) := by
  cases slot <;> rfl

theorem Slot.eq_tombstone_iff {slot : Slot} : slot = .tombstone ↔ slot.state = .tombstone := by
  cases slot <;> simp [Slot.state]

/-- Two tables that differ at most in the keys that their occupied slots hold. -/
structure SameShape (t t' : Table) : Prop where
  /-- Every slot is in the same state. -/
  states : t.slots.map Slot.state = t'.slots.map Slot.state
  size : t.size = t'.size
  tombstones : t.tombstones = t'.tombstones

namespace SameShape

theorem refl (t : Table) : SameShape t t := ⟨rfl, rfl, rfl⟩

theorem symm (h : SameShape t t') : SameShape t' t :=
  ⟨h.states.symm, h.size.symm, h.tombstones.symm⟩

theorem trans (h : SameShape t t') (h' : SameShape t' t'') : SameShape t t'' :=
  ⟨h.states.trans h'.states, h.size.trans h'.size, h.tombstones.trans h'.tombstones⟩

theorem capacity (h : SameShape t t') : t.capacity = t'.capacity := by
  have hsize := congrArg Array.size h.states
  simpa [Table.capacity] using hsize

theorem content_state (h : SameShape t t') (index : Nat) :
    (t.content index).state = (t'.content index).state := by
  have hget := congrArg (fun states => states.getD index Slot.State.empty) h.states
  have hmap : ∀ t : Table, (t.slots.map Slot.state).getD index .empty = (t.content index).state := by
    intro t
    unfold content
    rw [Array.getD_eq_getD_getElem?, Array.getD_eq_getD_getElem?, Array.getElem?_map]
    cases t.slots[index]? <;> rfl
  rwa [hmap, hmap] at hget

/-- Walks for a free slot end alike. -/
theorem insertionSlot_eq (h : SameShape t t') (key : String) :
    t.insertionSlot key = t'.insertionSlot key := by
  have hcapacity := h.capacity
  have hfree : (fun offset => Slot.isFree (t.along key offset)) =
      fun offset => Slot.isFree (t'.along key offset) := by
    funext offset
    unfold along
    rw [hcapacity, Slot.isFree_eq, h.content_state, ← Slot.isFree_eq]
  have hprobe : t.probeAt key = t'.probeAt key := by
    funext offset
    unfold probeAt
    rw [hcapacity]
  have hfirst : t.firstStop key Slot.isFree = t'.firstStop key Slot.isFree := by
    rw [firstStop_eq_find?, firstStop_eq_find?, hfree, hprobe, hcapacity]
  rw [insertionSlot, insertionSlot, h.size, hcapacity, hfirst]

/-- The same slot may take different keys. -/
theorem occupy (h : SameShape t t') (index : Nat) (key other : String) :
    SameShape (t.occupy index key) (t'.occupy index other) where
  states := by
    show (t.slots.setIfInBounds index _).map _ = (t'.slots.setIfInBounds index _).map _
    rw [Array.map_setIfInBounds, Array.map_setIfInBounds, h.states]
    rfl
  size := by rw [occupy_size, occupy_size, h.size]
  tombstones := by
    simp only [occupy_tombstones, Slot.eq_tombstone_iff, h.content_state, h.tombstones]

/-- An insertion sees only the shape. -/
theorem insert (h : SameShape t t') (key : String) :
    (t.insert key).1 = (t'.insert key).1 ∧ SameShape (t.insert key).2 (t'.insert key).2 := by
  unfold Table.insert
  rw [h.insertionSlot_eq key]
  cases t'.insertionSlot key with
  | ok probe => exact ⟨rfl, h.occupy probe.slot key key⟩
  | error e => exact ⟨rfl, h⟩

end SameShape

/-! ## Two walks -/

/-- Two walks that have met go on together. -/
theorem place_add {capacity here there : Nat}
    (h : place key capacity here = place other capacity there) (steps : Nat) :
    place key capacity (here + steps) = place other capacity (there + steps) := by
  unfold place at h ⊢
  rw [← Nat.add_assoc, ← Nat.add_assoc, Nat.add_mod, h, ← Nat.add_mod]

theorem along_add {here there : Nat}
    (h : place key t.capacity here = place other t.capacity there) (steps : Nat) :
    t.along key (here + steps) = t.along other (there + steps) := by
  unfold along
  rw [place_add h]

/-- After a lap a walk meets again what it has met. -/
theorem along_add_capacity (t : Table) (key : String) (offset : Nat) :
    t.along key (offset + t.capacity) = t.along key offset := by
  unfold along place
  rw [← Nat.add_assoc, Nat.add_mod_right]

/-- Two walks have met where neither may stop.  When one of them stops some steps later, then so
does the other. -/
theorem StopsFirst.meet {here there steps : Nat}
    (hmeet : place key t.capacity here = place other t.capacity there)
    (hbusy : ∀ earlier ≤ there, stops (t.along other earlier) = false)
    (h : StopsFirst t key stops (here + steps)) : StopsFirst t other stops (there + steps) where
  lt := by
    -- Beyond its lap the walk would stop at a slot that it has passed before.
    by_contra hlap
    have hlt := h.lt
    obtain ⟨earlier, hearlier⟩ := Nat.exists_eq_add_of_le' (Nat.le_of_not_lt hlap)
    have hpassed := hbusy earlier (by omega)
    rw [← along_add_capacity, ← hearlier, ← along_add hmeet, h.passes] at hpassed
    cases hpassed
  passes := by
    rw [← along_add hmeet]
    exact h.passes
  before := by
    intro earlier hearlier
    rcases Nat.lt_or_ge there earlier with hlate | hbefore
    · obtain ⟨more, rfl⟩ := Nat.exists_eq_add_of_le (Nat.le_of_lt hlate)
      rw [← along_add hmeet]
      exact h.before _ (by omega)
    · exact hbusy earlier hbefore

/-! ## Two insertions -/

/-- All slots of a full table are taken. -/
theorem WellFormed.isFree_of_full (h : t.WellFormed) (hfull : t.size = t.capacity)
    (hlt : index < t.capacity) : (t.content index).isFree = false := by
  have hcount : t.slots.toList.countP Slot.isLive = t.slots.toList.length := by
    rw [← h.size_eq_countP, hfull]
    rfl
  have hlive := List.countP_eq_length.mp hcount _ (mem_slots_of_slot? (slot?_of_lt hlt))
  rw [Slot.isFree_eq_not_isLive, hlive]
  rfl

/-- An insertion takes the first free slot, if there is one. -/
theorem WellFormed.insert_eq (h : t.WellFormed) (hfirst : StopsFirst t key Slot.isFree offset) :
    t.insert key =
      (.ok (t.probeAt key offset), t.occupy (place key t.capacity offset) key) := by
  refine insert_of_stopsFirst (fun hfull => ?_) hfirst
  have hbusy := h.isFree_of_full hfull (place_lt key (Nat.zero_lt_of_lt hfirst.lt) offset)
  have hfree : (t.content (place key t.capacity offset)).isFree = true := hfirst.passes
  rw [hbusy] at hfree
  cases hfree

/-- The slot that an insertion has taken is not free, and neither are those before it. -/
theorem StopsFirst.busy_occupy (h : StopsFirst t key Slot.isFree offset) (taker : String) :
    ∀ earlier ≤ offset,
      ((t.occupy (place key t.capacity offset) taker).along key earlier).isFree = false := by
  intro earlier hearlier
  have hwritten := Table.written_occupy (place_lt key (Nat.zero_lt_of_lt h.lt) offset) taker
  rw [hwritten.along_eq]
  split
  · rfl
  · next hne =>
      refine h.before earlier (Nat.lt_of_le_of_ne hearlier ?_)
      rintro rfl
      exact hne rfl

/-- A walk does not notice that another slot has been taken. -/
theorem StopsFirst.occupy_of_ne (h : StopsFirst t key Slot.isFree offset) (hlt : index < t.capacity)
    (hne : place key t.capacity offset ≠ index) (taker : String) :
    StopsFirst (t.occupy index taker) key Slot.isFree offset := by
  have hwritten := Table.written_occupy hlt taker
  refine ⟨?_, ?_, fun earlier hearlier => ?_⟩
  · rw [hwritten.capacity]
    exact h.lt
  · rw [hwritten.along_eq, if_neg hne]
    exact h.passes
  · rw [hwritten.along_eq]
    split
    · rfl
    · exact h.before earlier hearlier

/-- Two slots can be taken in either order. -/
theorem occupy_comm {index' : Nat} (hlt : index < t.capacity) (hlt' : index' < t.capacity)
    (hne : index ≠ index') (key other : String) :
    (t.occupy index key).occupy index' other = (t.occupy index' other).occupy index key := by
  have hcontent' : (t.occupy index key).content index' = t.content index' :=
    (written_occupy hlt key).content_of_ne hne.symm
  have hcontent : (t.occupy index' other).content index = t.content index :=
    (written_occupy hlt' other).content_of_ne hne
  have hslots : ((t.occupy index key).occupy index' other).slots =
      ((t.occupy index' other).occupy index key).slots :=
    Array.setIfInBounds_comm _ _ hne
  have htombstones : ((t.occupy index key).occupy index' other).tombstones =
      ((t.occupy index' other).occupy index key).tombstones := by
    simp only [occupy_tombstones, hcontent, hcontent']
    split <;> split <;> omega
  exact congrArg₂ (fun slots tombstones => Table.mk slots (t.size + 1 + 1) tombstones)
    hslots htombstones

/-- The steps that an insertion made; a failed one made none. -/
def stepsOf : Except TableError Probe → Nat
  | .ok probe => probe.probes
  | .error _ => 0

/-- Two walks that have met in a table where neither may stop there take the same slot, equally
far from where they met. -/
theorem WellFormed.insert_meet {here there : Nat} (h : t.WellFormed)
    (hmeet : place key t.capacity here = place other t.capacity there)
    (hkey : ∀ earlier ≤ here, (t.along key earlier).isFree = false)
    (hother : ∀ earlier ≤ there, (t.along other earlier).isFree = false) :
    SameShape (t.insert other).2 (t.insert key).2 ∧
      (t.size < t.capacity →
        here + stepsOf (t.insert other).1 = there + stepsOf (t.insert key).1) := by
  rcases h.insert_cases key with ⟨_, next, hnext, heq⟩ | ⟨hfull, heq⟩
  · have hlate : here < next := by
      by_contra hle
      have hbusy := hkey next (by omega)
      rw [hnext.passes] at hbusy
      cases hbusy
    obtain ⟨steps, rfl⟩ := Nat.exists_eq_add_of_le (Nat.le_of_lt hlate)
    have heq' := h.insert_eq (hnext.meet hmeet hother)
    rw [heq, heq', place_add hmeet]
    refine ⟨(SameShape.refl t).occupy _ _ _, fun _ => ?_⟩
    show here + (there + steps) = there + (here + steps)
    omega
  · rw [heq, insert_of_full hfull]
    exact ⟨SameShape.refl t, fun hroom => absurd hfull (Nat.ne_of_lt hroom)⟩

/-- Two insertions of which it does not matter which comes first: they leave the same shape, and
make the same number of steps in all if there is room for both. -/
structure Swaps (t : Table) (key other : String) : Prop where
  shape : SameShape ((t.insert key).2.insert other).2 ((t.insert other).2.insert key).2
  steps : t.size + 2 ≤ t.capacity →
    stepsOf (t.insert key).1 + stepsOf ((t.insert key).2.insert other).1 =
      stepsOf (t.insert other).1 + stepsOf ((t.insert other).2.insert key).1

section Swapping

variable {here there : Nat} (h : t.WellFormed) (hkey : StopsFirst t key Slot.isFree here)
  (hother : StopsFirst t other Slot.isFree there)

include h hkey hother

/-- Both insertions want the same slot: whoever comes second goes on from there. -/
theorem WellFormed.swaps_of_meet
    (hmeet : place key t.capacity here = place other t.capacity there) : Swaps t key other := by
  have hinsert := h.insert_eq hkey
  have hinsert' := h.insert_eq hother
  rw [← hmeet] at hinsert'
  have hshape : SameShape (t.occupy (place key t.capacity here) other)
      (t.occupy (place key t.capacity here) key) := (SameShape.refl t).occupy _ _ _
  have hpassed := hother.busy_occupy key
  rw [← hmeet] at hpassed
  have hcapacity := hkey.written_occupy.capacity
  obtain ⟨hafter, hsteps⟩ :=
    (h.occupy hkey).insert_meet (by rwa [hcapacity]) (hkey.busy_occupy key) hpassed
  obtain ⟨hresult, hlast⟩ := hshape.insert key
  refine ⟨?_, fun hroom => ?_⟩
  · rw [hinsert, hinsert']
    exact hafter.trans hlast.symm
  · rw [hinsert, hinsert', hresult]
    refine hsteps ?_
    rw [occupy_size, hcapacity]
    omega

/-- The insertions want different slots: neither notices the other. -/
theorem WellFormed.swaps_of_apart
    (hapart : place key t.capacity here ≠ place other t.capacity there) : Swaps t key other := by
  have hlt := place_lt key (Nat.zero_lt_of_lt hkey.lt) here
  have hlt' := place_lt other (Nat.zero_lt_of_lt hother.lt) there
  have hsecond := (h.occupy hkey).insert_eq (hother.occupy_of_ne hlt hapart.symm key)
  have hsecond' := (h.occupy hother).insert_eq (hkey.occupy_of_ne hlt' hapart other)
  rw [hkey.written_occupy.capacity] at hsecond
  rw [hother.written_occupy.capacity] at hsecond'
  refine ⟨?_, fun _ => ?_⟩
  · rw [h.insert_eq hkey, h.insert_eq hother, hsecond, hsecond', occupy_comm hlt hlt' hapart]
    exact SameShape.refl _
  · rw [h.insert_eq hkey, h.insert_eq hother, hsecond, hsecond']
    exact Nat.add_comm here there

end Swapping

/-- Of two neighbouring insertions it does not matter which comes first. -/
theorem WellFormed.swaps (h : t.WellFormed) (key other : String) : Swaps t key other := by
  rcases Nat.lt_or_ge t.size t.capacity with hroom | hfull
  · obtain ⟨here, hkey⟩ := h.exists_stopsFirst_free hroom key
    obtain ⟨there, hother⟩ := h.exists_stopsFirst_free hroom other
    by_cases hmeet : place key t.capacity here = place other t.capacity there
    · exact h.swaps_of_meet hkey hother hmeet
    · exact h.swaps_of_apart hkey hother hmeet
  · have hsize : t.size = t.capacity := Nat.le_antisymm h.size_le hfull
    refine ⟨?_, fun hroom => by omega⟩
    simp only [insert_of_full hsize]
    exact SameShape.refl t

/-! ## Many insertions -/

/-- Insertions see only the shape. -/
theorem SameShape.insertAll (h : SameShape t t') (keys : List String) :
    ((Table.insertAll keys).run t).1 = ((Table.insertAll keys).run t').1 ∧
      SameShape ((Table.insertAll keys).run t).2 ((Table.insertAll keys).run t').2 := by
  induction keys generalizing t t' with
  | nil => exact ⟨rfl, h⟩
  | cons key keys ih =>
      obtain ⟨hresult, hafter⟩ := h.insert key
      obtain ⟨hresults, hlast⟩ := ih hafter
      rw [run_insertAll_cons, run_insertAll_cons, hresult, hresults]
      exact ⟨rfl, hlast⟩

/-- The steps of many insertions. -/
def totalSteps (results : List (Except TableError Probe)) : Nat := (results.map stepsOf).sum

@[simp] theorem totalSteps_cons (result : Except TableError Probe)
    (results : List (Except TableError Probe)) :
    totalSteps (result :: results) = stepsOf result + totalSteps results := by
  simp [totalSteps]

section Reordering

variable (h : t.WellFormed) (hperm : keys.Perm keys')

include h hperm

/-- Keys in another order take the same slots. -/
theorem WellFormed.sameShape_insertAll :
    SameShape ((insertAll keys).run t).2 ((insertAll keys').run t).2 := by
  induction hperm generalizing t with
  | nil => exact SameShape.refl t
  | cons key _ ih =>
      rw [run_insertAll_cons, run_insertAll_cons]
      exact ih (h.insert key)
  | swap other key keys =>
      simp only [run_insertAll_cons]
      exact ((h.swaps key other).shape.insertAll keys).2
  | trans _ _ ih ih' => exact (ih h).trans (ih' h)

/-- If there is room for all, they make the same number of steps in all. -/
theorem WellFormed.totalSteps_insertAll (hroom : keys.length ≤ t.room) :
    totalSteps ((insertAll keys).run t).1 = totalSteps ((insertAll keys').run t).1 := by
  induction hperm generalizing t with
  | nil => rfl
  | cons key _ ih =>
      rw [List.length_cons] at hroom
      have hrest := ih (h.insert key) (by rw [h.room_insert]; omega)
      rw [run_insertAll_cons, run_insertAll_cons, totalSteps_cons, totalSteps_cons, hrest]
  | swap other key keys =>
      obtain ⟨hshape, hsteps⟩ := h.swaps key other
      rw [List.length_cons, List.length_cons, room] at hroom
      have hswap := hsteps (by omega)
      simp only [run_insertAll_cons, totalSteps_cons, (hshape.insertAll keys).1]
      omega
  | trans hfirst _ ih ih' => exact (ih h hroom).trans (ih' h (hfirst.length_eq ▸ hroom))

end Reordering

/-- Two lists of keys that fill a table alike. -/
structure FillAlike (t : Table) (keys keys' : List String) : Prop where
  /-- Every slot comes into the same state, and the counts become the same. -/
  shape : SameShape ((insertAll keys).run t).2 ((insertAll keys').run t).2
  /-- Equally many insertions fail. -/
  full : fullCount ((insertAll keys).run t).1 = fullCount ((insertAll keys').run t).1
  /-- If all keys fit, then the same keys are stored. -/
  stored : keys.length ≤ t.capacity - t.size →
    ((insertAll keys).run t).2.keys.Perm ((insertAll keys').run t).2.keys
  /-- If all keys fit, then the sum of the steps is the same. -/
  steps : keys.length ≤ t.capacity - t.size →
    totalSteps ((insertAll keys).run t).1 = totalSteps ((insertAll keys').run t).1

/-- The order in which keys are inserted into a table that calls have made does not matter to how
they fill it. -/
theorem fillAlike_of_perm (capacity : Capacity) (script : List Call) (keys keys' : List String)
    (hperm : keys.Perm keys') : FillAlike (after capacity script) keys keys' := by
  have h := (after_represents capacity script).1.wellFormed
  refine ⟨h.sameShape_insertAll hperm, ?_, fun hroom => ?_, h.totalSteps_insertAll hperm⟩
  · rw [h.fullCount_insertAll, h.fullCount_insertAll, hperm.length_eq]
  · have hkeys := h.keys_insertAll hroom
    have hkeys' := h.keys_insertAll (hperm.length_eq ▸ hroom)
    exact hkeys.trans ((hperm.append_right _).trans hkeys'.symm)

/-- Calls after which keys with the home slot 5 of seven wrap around, with a tombstone on the way. -/
def wrapping : List Call :=
  [.insert "tuna", .insert "tunas", .insert "tuna!", .erase "tunas"]

/-- Two keys compete for the tombstone, and either of them may get it. -/
theorem fillAlike_of_perm_wrapping :
    ["tuna1", "tuna2", "eel"].Perm ["eel", "tuna2", "tuna1"] ∧
      3 ≤ (after ⟨7, by decide⟩ wrapping).capacity - (after ⟨7, by decide⟩ wrapping).size ∧
      FillAlike (after ⟨7, by decide⟩ wrapping) ["tuna1", "tuna2", "eel"]
        ["eel", "tuna2", "tuna1"] := by
  have hperm : ["tuna1", "tuna2", "eel"].Perm ["eel", "tuna2", "tuna1"] := by decide
  refine ⟨hperm, by decide +kernel, ?_⟩
  exact fillAlike_of_perm ⟨7, by decide⟩ wrapping _ _ hperm

end ProbeForest.Table
