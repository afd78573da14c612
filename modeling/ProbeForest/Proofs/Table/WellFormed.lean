import ProbeForest.Proofs.Table.Walk

/-!
# Well-formed tables

A search stops at the first empty slot, so a table answers correctly only as
long as no empty slot lies between a key and its home slot.  Every operation
writes at most one slot, and what it writes is never empty; from this alone
follows that keys stay reachable.  The write also exchanges one slot for
another in the multiset of all slots, and the keys and both counts are read
off that multiset.

## Main results

* `WellFormed.insert_cases` — an insertion takes the first free slot, unless
  the table is full.
* `WellFormed.erase_cases` — a deletion buries the first copy of the key,
  unless there is none.
* `WellFormed.insert`, `WellFormed.erase` — tables stay well formed.
-/

namespace ProbeForest.Table

variable {t t' : Table} {key : String} {slot : Slot} {index offset : Nat}

/-! ## Writing one slot -/

/-- `t'` is `t` with another content of one slot. -/
structure Written (t t' : Table) (index : Nat) (slot : Slot) : Prop where
  /-- The slot exists. -/
  lt : index < t.capacity
  /-- Only this slot is written. -/
  slots : t'.slots = t.slots.setIfInBounds index slot

@[simp] theorem occupy_size (t : Table) (index : Nat) (key : String) :
    (t.occupy index key).size = t.size + 1 := rfl

@[simp] theorem bury_size (t : Table) (index : Nat) : (t.bury index).size = t.size - 1 := rfl

@[simp] theorem bury_tombstones (t : Table) (index : Nat) :
    (t.bury index).tombstones = t.tombstones + 1 := rfl

theorem occupy_tombstones (t : Table) (index : Nat) (key : String) :
    (t.occupy index key).tombstones =
      if t.content index = .tombstone then t.tombstones - 1 else t.tombstones := rfl

theorem written_occupy (h : index < t.capacity) (key : String) :
    Written t (t.occupy index key) index (.occupied key) :=
  ⟨h, rfl⟩

theorem written_bury (h : index < t.capacity) : Written t (t.bury index) index .tombstone :=
  ⟨h, rfl⟩

namespace Written

theorem capacity (h : Written t t' index slot) : t'.capacity = t.capacity := by
  rw [Table.capacity, h.slots, Array.size_setIfInBounds, Table.capacity]

theorem content_self (h : Written t t' index slot) : t'.content index = slot := by
  have hlt : index < t.slots.size := h.lt
  unfold content
  rw [h.slots, Array.getD_eq_getD_getElem?, Array.getElem?_setIfInBounds_self_of_lt hlt]
  rfl

theorem content_of_ne (h : Written t t' index slot) {other : Nat} (hne : other ≠ index) :
    t'.content other = t.content other := by
  unfold content
  rw [h.slots, Array.getD_eq_getD_getElem?, Array.getElem?_setIfInBounds_ne hne.symm,
    ← Array.getD_eq_getD_getElem?]

/-- A walk meets what it met before, or the slot that was written. -/
theorem along_eq (h : Written t t' index slot) (key : String) (offset : Nat) :
    t'.along key offset =
      if place key t.capacity offset = index then slot else t.along key offset := by
  unfold along
  rw [h.capacity]
  split
  · next heq => rw [heq, h.content_self]
  · next hne => rw [h.content_of_ne hne]

/-- No slot becomes empty when one is written that is not. -/
theorem along_ne_empty (h : Written t t' index slot) (hslot : slot ≠ .empty)
    (hne : t.along key offset ≠ .empty) : t'.along key offset ≠ .empty := by
  rw [h.along_eq]
  split
  · exact hslot
  · exact hne

/-- The write exchanges the old content of the slot for the new one. -/
theorem perm (h : Written t t' index slot) :
    (t.content index :: t'.slots.toList).Perm (slot :: t.slots.toList) := by
  have hlt : index < t.slots.toList.length := h.lt
  rw [content_of_lt hlt, h.slots, Array.toList_setIfInBounds]
  have hset := List.set_perm_cons_eraseIdx hlt slot
  exact ((hset.cons _).trans (List.Perm.swap _ _ _)).trans
    ((List.getElem_cons_eraseIdx_perm hlt).cons slot)

theorem keys_perm (h : Written t t' index slot) :
    ((t.content index).key?.toList ++ t'.keys).Perm (slot.key?.toList ++ t.keys) := by
  have hkeys := h.perm.filterMap Slot.key?
  cases hold : (t.content index).key? <;> cases hnew : slot.key? <;>
    simpa [List.filterMap_cons, hold, hnew, keys] using hkeys

theorem count_eq (h : Written t t' index slot) (what : Slot) :
    t'.slots.toList.count what + (if t.content index = what then 1 else 0) =
      t.slots.toList.count what + (if slot = what then 1 else 0) := by
  have hcount := h.perm.count_eq what
  rw [List.count_cons, List.count_cons] at hcount
  simpa using hcount

end Written

/-! ## Which keys a table holds -/

theorem mem_keys_iff : key ∈ t.keys ↔ ∃ index < t.capacity, t.content index = .occupied key := by
  have hslot : ∀ stored : Slot, stored.key? = some key ↔ stored = .occupied key := by
    intro stored
    cases stored <;> simp [Slot.key?]
  unfold keys
  rw [List.mem_filterMap]
  simp only [hslot, exists_eq_right]
  constructor
  · intro hmem
    obtain ⟨index, hlt, heq⟩ := List.getElem_of_mem hmem
    exact ⟨index, hlt, (content_of_lt hlt).trans heq⟩
  · rintro ⟨index, hlt, heq⟩
    rw [← heq, content_of_lt hlt]
    exact List.getElem_mem _

/-- A key that is held lies on its own lap. -/
theorem mem_keys_iff_along :
    key ∈ t.keys ↔ ∃ offset < t.capacity, t.along key offset = .occupied key := by
  rw [mem_keys_iff]
  constructor
  · rintro ⟨index, hlt, heq⟩
    obtain ⟨offset, hoffset, rfl⟩ := exists_place key hlt
    exact ⟨offset, hoffset, heq⟩
  · rintro ⟨offset, hlt, heq⟩
    exact ⟨place key t.capacity offset, place_lt key (by omega) offset, heq⟩

/-- The slot holds a live key. -/
def Slot.isLive (slot : Slot) : Bool := slot.key?.isSome

theorem Slot.isFree_eq_not_isLive (slot : Slot) : slot.isFree = !slot.isLive := by
  cases slot <;> rfl

theorem length_keys (t : Table) : t.keys.length = t.slots.toList.countP Slot.isLive :=
  List.length_filterMap_eq_countP

theorem length_keys_le (t : Table) : t.keys.length ≤ t.capacity :=
  List.length_filterMap_le _ _

/-- A table with fewer keys than slots has a free slot. -/
theorem exists_free (h : t.keys.length < t.capacity) :
    ∃ index < t.capacity, (t.content index).isFree = true := by
  rw [length_keys] at h
  obtain ⟨slot, hslot, hlive⟩ := List.countP_lt_length_iff.mp h
  obtain ⟨index, hlt, rfl⟩ := List.getElem_of_mem hslot
  refine ⟨index, hlt, ?_⟩
  rw [content_of_lt hlt, Slot.isFree_eq_not_isLive, hlive]
  rfl

/-! ## What one operation does -/

theorem endsSearch_iff :
    Slot.endsSearch key slot = true ↔ slot = .empty ∨ slot = .occupied key := by
  cases slot <;> simp [Slot.endsSearch]

/-- The search for a key ends after `offset` steps, at the key. -/
structure Meets (t : Table) (key : String) (offset : Nat) : Prop where
  /-- The search ends there. -/
  stop : t.StopsFirst key (Slot.endsSearch key) offset
  /-- It has met the key. -/
  here : t.along key offset = .occupied key

theorem Meets.mem (h : t.Meets key offset) : key ∈ t.keys :=
  mem_keys_iff_along.mpr ⟨offset, h.stop.lt, h.here⟩

theorem Meets.locate_eq (h : t.Meets key offset) :
    t.locate key = .ok (t.probeAt key offset) := by
  have hcontent : t.slots.getD (place key t.capacity offset) .empty = .occupied key := h.here
  simp only [locate, h.stop.firstStop_eq, probeAt_slot, hcontent, reduceCtorEq, if_false]

/-- The search for a key ends after `probes` steps, without the key. -/
structure Misses (t : Table) (key : String) (probes : Nat) : Prop where
  /-- It makes no more steps than a lap has. -/
  le : probes ≤ t.capacity
  /-- No slot met before ends it. -/
  before : ∀ earlier < probes, Slot.endsSearch key (t.along key earlier) = false
  /-- Unless the lap is over, it has come to an empty slot. -/
  here : probes < t.capacity → t.along key probes = .empty

theorem Misses.locate_eq {probes : Nat} (h : t.Misses key probes) :
    t.locate key = .error probes := by
  rcases Nat.lt_or_eq_of_le h.le with hlt | heq
  · have hpasses : Slot.endsSearch key (t.along key probes) = true :=
      endsSearch_iff.mpr (Or.inl (h.here hlt))
    have hstop : t.StopsFirst key (Slot.endsSearch key) probes := ⟨hlt, hpasses, h.before⟩
    have hcontent : t.slots.getD (place key t.capacity probes) .empty = .empty := h.here hlt
    simp only [locate, hstop.firstStop_eq, probeAt_slot, hcontent, if_true, probeAt_probes]
  · have hnone : t.firstStop key (Slot.endsSearch key) = none :=
      firstStop_eq_none_iff.mpr fun offset hoffset => h.before offset (heq ▸ hoffset)
    rw [locate, hnone, heq]

/-- A search ends at the key, or without it. -/
theorem locate_cases (t : Table) (key : String) :
    (∃ offset, t.Meets key offset) ∨ ∃ probes, t.Misses key probes := by
  cases hstop : t.firstStop key (Slot.endsSearch key) with
  | none =>
      exact Or.inr ⟨t.capacity, Nat.le_refl _, firstStop_eq_none_iff.mp hstop,
        fun hlt => absurd hlt (Nat.lt_irrefl _)⟩
  | some probe =>
      obtain ⟨offset, hoffset, rfl⟩ := firstStop_eq_some_iff.mp hstop
      rcases endsSearch_iff.mp hoffset.passes with hempty | hkey
      · exact Or.inr ⟨offset, Nat.le_of_lt hoffset.lt, hoffset.before, fun _ => hempty⟩
      · exact Or.inl ⟨offset, hoffset, hkey⟩

theorem insert_of_full (h : t.size = t.capacity) (key : String) :
    t.insert key = (.error (.full t.capacity), t) := by
  unfold Table.insert
  rw [insertionSlot, if_pos h]

theorem insert_of_stopsFirst (hsize : t.size ≠ t.capacity)
    (h : t.StopsFirst key Slot.isFree offset) :
    t.insert key =
      (.ok (t.probeAt key offset), t.occupy (place key t.capacity offset) key) := by
  unfold Table.insert
  rw [insertionSlot, if_neg hsize, h.firstStop_eq]
  rfl

theorem erase_of_meets (h : t.Meets key offset) :
    t.erase key = (.ok (t.probeAt key offset), t.bury (place key t.capacity offset)) := by
  unfold Table.erase
  rw [h.locate_eq]
  rfl

theorem erase_of_misses {probes : Nat} (h : t.Misses key probes) :
    t.erase key = (.error (.notFound key probes), t) := by
  unfold Table.erase
  rw [h.locate_eq]

/-! ## The invariant -/

/-- A table whose counts are right and whose keys can be reached. -/
structure WellFormed (t : Table) : Prop where
  /-- The size is the number of live keys. -/
  size_eq : t.size = t.keys.length
  /-- The tombstones are counted. -/
  tombstones_eq : t.tombstones = t.slots.toList.count .tombstone
  /-- No empty slot lies on the way from the home slot of a key to the key. -/
  path : ∀ key offset, offset < t.capacity → t.along key offset = .occupied key →
    ∀ earlier < offset, t.along key earlier ≠ .empty

theorem keys_ofCapacity (capacity : Capacity) : (ofCapacity capacity).keys = [] := by
  unfold keys
  rw [ofCapacity, Array.toList_replicate, List.filterMap_replicate_of_none rfl]

theorem wellFormed_ofCapacity (capacity : Capacity) : (ofCapacity capacity).WellFormed where
  size_eq := by
    rw [keys_ofCapacity]
    rfl
  tombstones_eq := by
    simp [ofCapacity, List.count_replicate]
  path key offset hlt hkey := by
    have hempty : ∀ index, (ofCapacity capacity).content index = .empty := by
      intro index
      simp [ofCapacity, content, Array.getElem?_replicate]
      split <;> rfl
    rw [along, hempty] at hkey
    cases hkey

/-- What is written keeps all keys reachable if it is not empty, and is reachable itself. -/
theorem Written.path (hw : Written t t' index slot) (h : t.WellFormed) (hslot : slot ≠ .empty)
    (hreach : ∀ key offset, slot = .occupied key → offset < t.capacity →
      place key t.capacity offset = index → ∀ earlier < offset, t.along key earlier ≠ .empty) :
    ∀ key offset, offset < t'.capacity → t'.along key offset = .occupied key →
      ∀ earlier < offset, t'.along key earlier ≠ .empty := by
  intro key offset hlt hkey earlier hearlier
  rw [hw.capacity] at hlt
  rw [hw.along_eq] at hkey
  refine hw.along_ne_empty hslot ?_
  split at hkey
  · next hplace => exact hreach key offset hkey hlt hplace earlier hearlier
  · exact h.path key offset hlt hkey earlier hearlier

namespace WellFormed

theorem size_le (h : t.WellFormed) : t.size ≤ t.capacity := by
  rw [h.size_eq]
  exact length_keys_le t

/-- While there is room, one lap finds a free slot. -/
theorem exists_stopsFirst_free (h : t.WellFormed) (hroom : t.size < t.capacity) (key : String) :
    ∃ offset, t.StopsFirst key Slot.isFree offset := by
  rw [h.size_eq] at hroom
  obtain ⟨index, hlt, hfree⟩ := exists_free hroom
  obtain ⟨offset, hoffset, rfl⟩ := exists_place key hlt
  have halong : Slot.isFree (t.along key offset) = true := hfree
  obtain ⟨first, _, hfirst⟩ := exists_stopsFirst hoffset halong
  exact ⟨first, hfirst⟩

/-- The search for a key that is held ends at a copy of it, since no empty slot comes first. -/
theorem exists_meets (h : t.WellFormed) (hmem : key ∈ t.keys) : ∃ offset, t.Meets key offset := by
  obtain ⟨offset, hlt, hkey⟩ := mem_keys_iff_along.mp hmem
  obtain ⟨first, hle, hfirst⟩ := exists_stopsFirst hlt (endsSearch_iff.mpr (Or.inr hkey))
  refine ⟨first, hfirst, ?_⟩
  rcases endsSearch_iff.mp hfirst.passes with hempty | hhere
  · have hne : first ≠ offset := by
      rintro rfl
      rw [hkey] at hempty
      cases hempty
    exact absurd hempty (h.path key offset hlt hkey first (by omega))
  · exact hhere

/-- An insertion takes the first free slot, unless the table is full. -/
theorem insert_cases (h : t.WellFormed) (key : String) :
    (t.size < t.capacity ∧ ∃ offset, t.StopsFirst key Slot.isFree offset ∧
      t.insert key =
        (.ok (t.probeAt key offset), t.occupy (place key t.capacity offset) key)) ∨
    (t.size = t.capacity ∧ t.insert key = (.error (.full t.capacity), t)) := by
  rcases Nat.lt_or_ge t.size t.capacity with hroom | hfull
  · obtain ⟨offset, hoffset⟩ := h.exists_stopsFirst_free hroom key
    exact Or.inl ⟨hroom, offset, hoffset, insert_of_stopsFirst (Nat.ne_of_lt hroom) hoffset⟩
  · have hsize : t.size = t.capacity := Nat.le_antisymm h.size_le hfull
    exact Or.inr ⟨hsize, insert_of_full hsize key⟩

/-- While there is room, an insertion succeeds. -/
theorem insert_ok (h : t.WellFormed) (hroom : t.size < t.capacity) (key : String) :
    ∃ probe, (t.insert key).1 = .ok probe := by
  rcases h.insert_cases key with ⟨_, offset, _, heq⟩ | ⟨hfull, _⟩
  · exact ⟨t.probeAt key offset, by rw [heq]⟩
  · omega

/-- A deletion buries the first copy of the key, unless there is none. -/
theorem erase_cases (h : t.WellFormed) (key : String) :
    (key ∈ t.keys ∧ ∃ offset, t.Meets key offset ∧
      t.erase key = (.ok (t.probeAt key offset), t.bury (place key t.capacity offset))) ∨
    (key ∉ t.keys ∧ ∃ probes, t.Misses key probes ∧
      t.erase key = (.error (.notFound key probes), t)) := by
  by_cases hmem : key ∈ t.keys
  · obtain ⟨offset, hoffset⟩ := h.exists_meets hmem
    exact Or.inl ⟨hmem, offset, hoffset, erase_of_meets hoffset⟩
  · rcases locate_cases t key with ⟨offset, hoffset⟩ | ⟨probes, hprobes⟩
    · exact absurd hoffset.mem hmem
    · exact Or.inr ⟨hmem, probes, hprobes, erase_of_misses hprobes⟩

/-- A search finds exactly the keys that the table holds. -/
theorem isSome_find? (h : t.WellFormed) : (t.find? key).isSome = true ↔ key ∈ t.keys := by
  constructor
  · intro hfound
    rcases locate_cases t key with ⟨offset, hoffset⟩ | ⟨probes, hprobes⟩
    · exact hoffset.mem
    · rw [find?, hprobes.locate_eq] at hfound
      cases hfound
  · intro hmem
    obtain ⟨offset, hoffset⟩ := h.exists_meets hmem
    unfold find?
    rw [hoffset.locate_eq]
    rfl

end WellFormed

/-! ## Preservation -/

section Occupying

variable (hfirst : t.StopsFirst key Slot.isFree offset)

include hfirst

theorem StopsFirst.written_occupy :
    Written t (t.occupy (place key t.capacity offset) key) (place key t.capacity offset)
      (.occupied key) :=
  Table.written_occupy (place_lt key (Nat.zero_lt_of_lt hfirst.lt) offset) key

/-- An insertion adds one copy of its key. -/
theorem StopsFirst.keys_occupy :
    (t.occupy (place key t.capacity offset) key).keys.Perm (key :: t.keys) := by
  have hperm := hfirst.written_occupy.keys_perm
  have hfree : (t.along key offset).isFree = true := hfirst.passes
  have hnone : (t.content (place key t.capacity offset)).key? = none := by
    show (t.along key offset).key? = none
    cases hcontent : t.along key offset with
    | empty => rfl
    | tombstone => rfl
    | occupied stored =>
        rw [hcontent] at hfree
        cases hfree
  rwa [hnone] at hperm

theorem WellFormed.occupy (h : t.WellFormed) :
    (t.occupy (place key t.capacity offset) key).WellFormed where
  size_eq := by
    rw [occupy_size, hfirst.keys_occupy.length_eq, List.length_cons, h.size_eq]
  tombstones_eq := by
    have hlive : Slot.occupied key ≠ .tombstone := by simp
    have hcount := hfirst.written_occupy.count_eq .tombstone
    rw [if_neg hlive] at hcount
    rw [occupy_tombstones, h.tombstones_eq]
    split
    · next hreused =>
        rw [if_pos hreused] at hcount
        omega
    · next hreused =>
        rw [if_neg hreused] at hcount
        omega
  path := by
    refine hfirst.written_occupy.path h (by simp) ?_
    intro stored there hstored hlt hplace earlier hearlier hempty
    -- The key that was written is the one whose walk passed no free slot on its way.
    obtain rfl : key = stored := by simpa using hstored
    obtain rfl : there = offset := place_inj hlt hfirst.lt hplace
    have hbusy := hfirst.before earlier hearlier
    rw [hempty] at hbusy
    cases hbusy

end Occupying

section Burying

variable (hmeets : t.Meets key offset)

include hmeets

theorem Meets.written_bury :
    Written t (t.bury (place key t.capacity offset)) (place key t.capacity offset) .tombstone :=
  Table.written_bury (place_lt key (Nat.zero_lt_of_lt hmeets.stop.lt) offset)

/-- A deletion takes one copy of its key. -/
theorem Meets.keys_bury :
    (key :: (t.bury (place key t.capacity offset)).keys).Perm t.keys := by
  have hperm := hmeets.written_bury.keys_perm
  have hcontent : t.content (place key t.capacity offset) = .occupied key := hmeets.here
  rwa [hcontent] at hperm

theorem WellFormed.bury (h : t.WellFormed) :
    (t.bury (place key t.capacity offset)).WellFormed where
  size_eq := by
    have hlength := hmeets.keys_bury.length_eq
    rw [List.length_cons] at hlength
    rw [bury_size, h.size_eq]
    omega
  tombstones_eq := by
    have hcount := hmeets.written_bury.count_eq .tombstone
    have hcontent : t.content (place key t.capacity offset) = .occupied key := hmeets.here
    have hlive : Slot.occupied key ≠ .tombstone := by simp
    rw [hcontent, if_neg hlive, if_pos rfl] at hcount
    rw [bury_tombstones, h.tombstones_eq]
    omega
  path := by
    refine hmeets.written_bury.path h (by simp) ?_
    intro stored there hstored
    cases hstored

end Burying

namespace WellFormed

theorem insert (h : t.WellFormed) (key : String) : (t.insert key).2.WellFormed := by
  rcases h.insert_cases key with ⟨_, offset, hfirst, heq⟩ | ⟨_, heq⟩
  · rw [heq]
    exact h.occupy hfirst
  · rwa [heq]

theorem erase (h : t.WellFormed) (key : String) : (t.erase key).2.WellFormed := by
  rcases h.erase_cases key with ⟨_, offset, hmeets, heq⟩ | ⟨_, probes, _, heq⟩
  · rw [heq]
    exact h.bury hmeets
  · rwa [heq]

theorem capacity_insert (h : t.WellFormed) (key : String) :
    (t.insert key).2.capacity = t.capacity := by
  rcases h.insert_cases key with ⟨_, offset, hfirst, heq⟩ | ⟨_, heq⟩
  · rw [heq]
    exact hfirst.written_occupy.capacity
  · rw [heq]

theorem capacity_erase (h : t.WellFormed) (key : String) :
    (t.erase key).2.capacity = t.capacity := by
  rcases h.erase_cases key with ⟨_, offset, hmeets, heq⟩ | ⟨_, probes, _, heq⟩
  · rw [heq]
    exact hmeets.written_bury.capacity
  · rw [heq]

end WellFormed

end ProbeForest.Table
