import Mathlib
import ProbeForest.Table.Basic

/-!
# Walks in closed form

A walk steps from slot to slot and counts its steps beside that.  Here the two
are tied together: after `offset` steps the walk of a key is at `place`, which
is the home slot plus the offset, modulo the number of slots.  A whole lap
meets every slot exactly once, so what a walk finds can be said by the least
offset at which the test holds.

## Main results

* `place_inj`, `exists_place` — a lap visits every slot exactly once.
* `firstStop_eq_some_iff`, `firstStop_eq_none_iff` — a walk finds the first
  slot that passes its test, or there is no such slot at all.
-/

namespace ProbeForest.Table

variable {t : Table} {key : String} {stops : Slot → Bool} {capacity index offset : Nat}

/-! ## Laps -/

/-- The slot that a walk from the home slot of a key has reached after `offset` steps. -/
def place (key : String) (capacity offset : Nat) : Nat :=
  (home key capacity + offset) % capacity

/-- The content of a slot; beyond the last slot nothing is stored. -/
def content (t : Table) (index : Nat) : Slot := t.slots.getD index .empty

theorem content_of_lt (h : index < t.slots.toList.length) :
    t.content index = t.slots.toList[index] := by
  unfold content
  rw [Array.getD_eq_getD_getElem?, ← Array.getElem?_toList, List.getElem?_eq_getElem h]
  rfl

/-- What a walk for a key meets after `offset` steps. -/
def along (t : Table) (key : String) (offset : Nat) : Slot :=
  t.content (place key t.capacity offset)

theorem place_lt (key : String) (h : 0 < capacity) (offset : Nat) :
    place key capacity offset < capacity :=
  Nat.mod_lt _ h

theorem place_zero (key : String) (capacity : Nat) : place key capacity 0 = home key capacity := by
  unfold place
  rw [Nat.add_zero, home, Nat.mod_mod]

/-- The wrap at the last slot is the one of the modulus. -/
theorem next_mod (index capacity : Nat) :
    next (index % capacity) capacity = (index + 1) % capacity := by
  unfold next
  rw [Nat.add_mod index 1]
  rcases Nat.eq_zero_or_pos capacity with rfl | hpos
  · simp
  · have hlt : index % capacity < capacity := Nat.mod_lt _ hpos
    rw [Nat.add_mod_mod]
    split
    · next hwrap => rw [hwrap, Nat.mod_self]
    · next hwrap => exact (Nat.mod_eq_of_lt (by omega)).symm

theorem next_place (key : String) (capacity offset : Nat) :
    next (place key capacity offset) capacity = place key capacity (offset + 1) :=
  next_mod (home key capacity + offset) capacity

/-- No slot is met twice on a lap. -/
theorem place_inj {other : Nat} (hoffset : offset < capacity) (hother : other < capacity)
    (h : place key capacity offset = place key capacity other) : offset = other := by
  have hmod : offset ≡ other [MOD capacity] := Nat.ModEq.add_left_cancel' (home key capacity) h
  exact hmod.eq_of_lt_of_lt hoffset hother

/-- Every slot is met on a lap. -/
theorem exists_place (key : String) (h : index < capacity) :
    ∃ offset, offset < capacity ∧ place key capacity offset = index := by
  have hpos : 0 < capacity := by omega
  have hhome : home key capacity < capacity := Nat.mod_lt _ hpos
  refine ⟨(index + (capacity - home key capacity)) % capacity, Nat.mod_lt _ hpos, ?_⟩
  have hsum : home key capacity + (index + (capacity - home key capacity)) = index + capacity := by
    omega
  unfold place
  rw [Nat.add_mod_mod, hsum, Nat.add_mod_right, Nat.mod_eq_of_lt h]

/-! ## What a walk finds -/

/-- The probe that a walk for a key has made after `offset` steps. -/
def probeAt (t : Table) (key : String) (offset : Nat) : Probe :=
  ⟨place key t.capacity offset, offset⟩

@[simp] theorem probeAt_slot (t : Table) (key : String) (offset : Nat) :
    (t.probeAt key offset).slot = place key t.capacity offset := rfl

@[simp] theorem probeAt_probes (t : Table) (key : String) (offset : Nat) :
    (t.probeAt key offset).probes = offset := rfl

/-- A walk for a key meets the first slot that passes the test after `offset` steps. -/
structure StopsFirst (t : Table) (key : String) (stops : Slot → Bool) (offset : Nat) : Prop where
  /-- The slot is met before the lap ends. -/
  lt : offset < t.capacity
  /-- The slot passes the test. -/
  passes : stops (t.along key offset) = true
  /-- No slot met before does. -/
  before : ∀ earlier < offset, stops (t.along key earlier) = false

/-- A walk looks for the first offset that passes. -/
theorem walk_eq_find? (t : Table) (key : String) (stops : Slot → Bool) (remaining offset : Nat) :
    walk t.slots stops remaining (place key t.capacity offset) offset =
      ((List.range' offset remaining).find? fun o => stops (t.along key o)).map (t.probeAt key) := by
  induction remaining generalizing offset with
  | zero => rfl
  | succ remaining ih =>
      rw [walk, List.range'_succ, List.find?_cons]
      show (if stops (t.along key offset) then _ else _) = _
      cases stops (t.along key offset) with
      | true => rfl
      | false =>
          show walk t.slots stops remaining (next (place key t.capacity offset) t.capacity)
            (offset + 1) = _
          rw [next_place, ih]

theorem firstStop_eq_find? (t : Table) (key : String) (stops : Slot → Bool) :
    t.firstStop key stops =
      ((List.range t.capacity).find? fun o => stops (t.along key o)).map (t.probeAt key) := by
  unfold firstStop
  rw [← place_zero, walk_eq_find?, List.range_eq_range']

theorem find?_range_eq_some_iff : ((List.range t.capacity).find? fun o => stops (t.along key o)) =
    some offset ↔ StopsFirst t key stops offset := by
  rw [List.find?_range_eq_some, List.mem_range]
  constructor
  · rintro ⟨hstops, hlt, hbefore⟩
    exact ⟨hlt, hstops, fun earlier hearlier => by simpa using hbefore earlier hearlier⟩
  · rintro ⟨hlt, hstops, hbefore⟩
    exact ⟨hstops, hlt, fun earlier hearlier => by simpa using hbefore earlier hearlier⟩

/-- A walk ends at the first slot that passes its test. -/
theorem StopsFirst.firstStop_eq (h : StopsFirst t key stops offset) :
    t.firstStop key stops = some (t.probeAt key offset) := by
  rw [firstStop_eq_find?, find?_range_eq_some_iff.mpr h]
  rfl

theorem firstStop_eq_some_iff {probe : Probe} : t.firstStop key stops = some probe ↔
    ∃ offset, StopsFirst t key stops offset ∧ probe = t.probeAt key offset := by
  rw [firstStop_eq_find?, Option.map_eq_some_iff]
  constructor
  · rintro ⟨offset, hfind, rfl⟩
    exact ⟨offset, find?_range_eq_some_iff.mp hfind, rfl⟩
  · rintro ⟨offset, hstop, rfl⟩
    exact ⟨offset, find?_range_eq_some_iff.mpr hstop, rfl⟩

/-- A walk finds nothing exactly if no slot on the lap passes its test. -/
theorem firstStop_eq_none_iff :
    t.firstStop key stops = none ↔ ∀ offset < t.capacity, stops (t.along key offset) = false := by
  rw [firstStop_eq_find?, Option.map_eq_none_iff, List.find?_range_eq_none]
  simp

/-- Among the slots that pass the test there is one that is met first. -/
theorem exists_stopsFirst (hlt : offset < t.capacity) (hstops : stops (t.along key offset) = true) :
    ∃ first, first ≤ offset ∧ StopsFirst t key stops first := by
  cases h : t.firstStop key stops with
  | none =>
      rw [firstStop_eq_none_iff.mp h offset hlt] at hstops
      cases hstops
  | some probe =>
      obtain ⟨first, hfirst, _⟩ := firstStop_eq_some_iff.mp h
      refine ⟨first, Nat.le_of_not_lt fun hlate => ?_, hfirst⟩
      rw [hfirst.before offset hlate] at hstops
      cases hstops

end ProbeForest.Table
