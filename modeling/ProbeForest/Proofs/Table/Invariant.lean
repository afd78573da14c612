import ProbeForest.Proofs.Table.Bag

/-!
# What every table keeps

Three facts are kept by all calls: the size counts the slots with live keys,
the count of tombstones counts the tombstones, and no empty slot lies on the
walk from the home slot of a key to the key.  They are what the operations
rely on.  A count that is lowered is never zero, since the slot that is
written was counted; and a table with room has a free slot, which one lap must
meet.

## Main results

* `WellFormed.size_add_tombstones_le` — live keys and tombstones share the slots.
* `WellFormed.invariant` — a well-formed table has all that the operations rely on.
* `after_invariant` — so has every table that calls can make.
-/

namespace ProbeForest.Table

variable {t : Table} {key : String} {slot : Slot} {index : Nat} {probe : Probe}

/-! ## Slots by their index -/

theorem slot?_of_lt (h : index < t.capacity) : t.slot? index = some (t.content index) := by
  unfold capacity at h
  simp [slot?, content, Array.getD_eq_getD_getElem?, h]

theorem slot?_place {offset : Nat} (h : offset < t.capacity) :
    t.slot? (place key t.capacity offset) = some (t.along key offset) :=
  slot?_of_lt (place_lt key (Nat.zero_lt_of_lt h) offset)

theorem lt_of_slot?_eq (h : t.slot? index = some slot) : index < t.capacity :=
  (Array.getElem?_eq_some_iff.mp h).1

theorem slot?_eq_some_iff :
    t.slot? index = some slot ↔ index < t.capacity ∧ t.content index = slot := by
  constructor
  · intro h
    have hlt := lt_of_slot?_eq h
    rw [slot?_of_lt hlt] at h
    exact ⟨hlt, Option.some.inj h⟩
  · rintro ⟨hlt, rfl⟩
    exact slot?_of_lt hlt

theorem mem_slots_of_slot? (h : t.slot? index = some slot) : slot ∈ t.slots.toList :=
  Array.mem_toList_iff.mpr (Array.mem_of_getElem? h)

/-! ## Counting slots -/

theorem WellFormed.size_eq_countP (h : t.WellFormed) :
    t.size = t.slots.toList.countP Slot.isLive := by
  rw [h.size_eq, length_keys]

/-- Live keys and tombstones share the slots. -/
theorem WellFormed.size_add_tombstones_le (h : t.WellFormed) :
    t.size + t.tombstones ≤ t.capacity := by
  have hdisjoint : t.slots.toList.count .tombstone ≤
      t.slots.toList.countP fun slot => !slot.isLive := by
    refine List.countP_mono_left fun slot _ hslot => ?_
    rw [beq_iff_eq.mp hslot]
    rfl
  have hsplit := List.length_eq_countP_add_countP (l := t.slots.toList) Slot.isLive
  have hlength : t.slots.toList.length = t.capacity := rfl
  rw [h.size_eq_countP, h.tombstones_eq, ← hlength, hsplit]
  simpa using hdisjoint

/-! ## What the operations rely on -/

/-- What the operations on a table of `capacity` slots rely on. -/
structure Invariant (capacity : Nat) (t : Table) : Prop where
  /-- The number of slots is the capacity. -/
  slots_eq : t.slots.size = capacity
  /-- The size is the number of slots with a live key. -/
  size_eq : t.size = t.slots.toList.countP Slot.isLive
  /-- The tombstones are counted. -/
  tombstones_eq : t.tombstones = t.slots.toList.count .tombstone
  /-- Both counts together stay within the slots. -/
  counts_le : t.size + t.tombstones ≤ capacity
  /-- The walk from the home slot of a key comes to the key, and to no empty slot before. -/
  path : ∀ index key, t.slot? index = some (.occupied key) →
    ∃ steps < capacity, place key capacity steps = index ∧
      ∀ earlier ≤ steps, t.slot? (place key capacity earlier) ≠ some .empty
  /-- An insertion into a tombstone takes one from a count that is not zero. -/
  tombstones_pos : ∀ key probe, t.insertionSlot key = .ok probe →
    t.slot? probe.slot = some .tombstone → 0 < t.tombstones
  /-- A deletion takes one from a size that is not zero. -/
  size_pos : ∀ key probe, t.locate key = .ok probe → 0 < t.size
  /-- Unless the size is the capacity, the walk of an insertion comes to a free slot. -/
  free : ∀ key, t.size ≠ capacity → ∃ probe, t.firstStop key Slot.isFree = some probe
  /-- With room, an insertion succeeds. -/
  insert_ok : ∀ key, t.size < capacity → ∃ probe, (t.insert key).1 = .ok probe

theorem mem_keys_of_locate (h : t.locate key = .ok probe) : key ∈ t.keys := by
  rcases locate_cases t key with ⟨offset, hmeets⟩ | ⟨probes, hmisses⟩
  · exact hmeets.mem
  · rw [hmisses.locate_eq] at h
    cases h

/-- A key that is not in a table is not found there. -/
theorem find?_eq_none_of_not_mem (h : key ∉ t.keys) : t.find? key = none := by
  cases hlocate : t.locate key with
  | ok probe => exact absurd (mem_keys_of_locate hlocate) h
  | error probes =>
      rw [find?, hlocate]
      rfl

/-- A well-formed table has all that the operations rely on. -/
theorem WellFormed.invariant (h : t.WellFormed) : Invariant t.capacity t where
  slots_eq := rfl
  size_eq := h.size_eq_countP
  tombstones_eq := h.tombstones_eq
  counts_le := h.size_add_tombstones_le
  path index key hslot := by
    obtain ⟨hlt, hkey⟩ := slot?_eq_some_iff.mp hslot
    obtain ⟨steps, hsteps, rfl⟩ := exists_place key hlt
    refine ⟨steps, hsteps, rfl, fun earlier hearlier hempty => ?_⟩
    obtain ⟨_, hempty⟩ := slot?_eq_some_iff.mp hempty
    rcases Nat.lt_or_eq_of_le hearlier with hbefore | rfl
    · exact h.path key steps hsteps hkey earlier hbefore hempty
    · rw [hkey] at hempty
      cases hempty
  tombstones_pos key probe _ hslot := by
    rw [h.tombstones_eq]
    exact List.count_pos_iff.mpr (mem_slots_of_slot? hslot)
  size_pos key probe hlocate := by
    rw [h.size_eq]
    exact List.length_pos_of_mem (mem_keys_of_locate hlocate)
  free key hsize := by
    have hroom : t.size < t.capacity := Nat.lt_of_le_of_ne h.size_le hsize
    obtain ⟨offset, hfirst⟩ := h.exists_stopsFirst_free hroom key
    exact ⟨_, hfirst.firstStop_eq⟩
  insert_ok key hroom := h.insert_ok hroom key

/-- Every table that calls can make, whether they succeeded or failed, has its counts right and
its keys within reach.  Its operations never lower a count that is zero, and an insertion that
finds room always succeeds. -/
theorem after_invariant (capacity : Capacity) (script : List Call) :
    Invariant capacity.slots (after capacity script) := by
  obtain ⟨h, hcapacity⟩ := after_represents capacity script
  rw [← hcapacity]
  exact h.wellFormed.invariant

end ProbeForest.Table
