import ProbeForest.Proofs.Table.InsertionOrder
import ProbeForest.Proofs.Table.Staying

/-!
# What tombstones give and what they cost

A deletion does not make its slot empty again.  So the empty slots of a table
can only become fewer, whatever calls are made, and this has two sides.

A key that was deleted and is inserted again comes to a tombstone, the one it
has just left or one before that.  It never needs an empty slot: on the way to
a stored key there is none.  It is found there at once, after no more steps
than before, and both counts are what they were.

A search for a key that is not there ends at the first empty slot of its walk,
or after a lap.  Since no slot becomes empty, that end can only move away.  Once
the empty slots are used up, every such search goes over the whole lap.

## Main results

* `WellFormed.exists_reinserted` — a key that is deleted and inserted again.
* `WellFormed.emptySlots_leaves_subset` — the step lemma: no call makes a slot
  empty.
* `emptySlots_append_subset` — the run lemma, for scripts.
* `Misses.le_of_emptySlots_subset` — with fewer empty slots a search makes at
  least as many steps in vain.
* `after_reinserted`, `after_missesGrow` — both sides, said of tables that calls
  have made.
-/

namespace ProbeForest.Table

variable {t t' : Table} {key : String} {slot : Slot} {index offset probes probes' : Nat}
  {probe : Probe}

/-! ## A key that is deleted and inserted again -/

/-- What becomes of a key that is deleted, where its search has found it, and inserted again. -/
structure Reinserted (t : Table) (key : String) (probe again : Probe) : Prop where
  /-- The insertion succeeds. -/
  insert_eq : ((t.erase key).2.insert key).1 = .ok again
  /-- It makes no more steps than the deletion. -/
  probes_le : again.probes ≤ probe.probes
  /-- The slot that it takes is a tombstone. -/
  slot_eq : (t.erase key).2.slot? again.slot = some .tombstone
  /-- The key is found there afterwards. -/
  find?_eq : ((t.erase key).2.insert key).2.find? key = some again
  /-- The size is what it was before the deletion. -/
  size_eq : ((t.erase key).2.insert key).2.size = t.size
  /-- So is the number of tombstones. -/
  tombstones_eq : ((t.erase key).2.insert key).2.tombstones = t.tombstones
  /-- So are the keys, each with as many copies. -/
  keys_perm : ((t.erase key).2.insert key).2.keys.Perm t.keys

/-- No slot is empty up to the one at which a key is met. -/
theorem Meets.along_ne_empty (hmeets : t.Meets key offset) {earlier : Nat}
    (hle : earlier ≤ offset) : t.along key earlier ≠ .empty := by
  intro hempty
  rcases Nat.lt_or_eq_of_le hle with hlt | rfl
  · have hpassed := hmeets.stop.before earlier hlt
    rw [hempty] at hpassed
    cases hpassed
  · rw [hmeets.here] at hempty
    cases hempty

section Burying

variable (hmeets : t.Meets key offset)
  (hw : Written t t' (place key t.capacity offset) .tombstone)

include hmeets hw

/-- After a key was buried, the first free slot of its walk is a tombstone, at its old slot or
before. -/
theorem Meets.exists_tombstone :
    ∃ first ≤ offset, t'.StopsFirst key Slot.isFree first ∧ t'.along key first = .tombstone := by
  have hthere : t'.along key offset = .tombstone := by
    rw [hw.along_eq, if_pos rfl]
  have hlt : offset < t'.capacity := by
    rw [hw.capacity]
    exact hmeets.stop.lt
  have hfree : Slot.isFree (t'.along key offset) = true := by
    rw [hthere]
    rfl
  obtain ⟨first, hle, hfirst⟩ := exists_stopsFirst hlt hfree
  have hne := hw.along_ne_empty (by simp) (hmeets.along_ne_empty hle)
  have hpasses := hfirst.passes
  refine ⟨first, hle, hfirst, ?_⟩
  cases hcontent : t'.along key first with
  | empty => exact absurd hcontent hne
  | tombstone => rfl
  | occupied stored =>
      rw [hcontent] at hpasses
      cases hpasses

/-- No copy of the key lies before the one that was buried. -/
theorem Meets.along_ne_occupied {earlier : Nat} (hlt : earlier < offset) :
    t'.along key earlier ≠ .occupied key := by
  intro hkey
  have hpassed := hw.passed rfl (hmeets.stop.before earlier hlt)
  rw [endsSearch_iff.mpr (Or.inr hkey)] at hpassed
  cases hpassed

end Burying

/-- A key that takes a tombstone lowers their count. -/
theorem occupy_tombstones_of_reused (h : t.along key offset = .tombstone) :
    (t.occupy (place key t.capacity offset) key).tombstones = t.tombstones - 1 := by
  rw [occupy_tombstones]
  exact if_pos h

/-- A key that was found and deleted is inserted again into a tombstone, no further away. -/
theorem WellFormed.exists_reinserted (h : t.WellFormed) (herase : (t.erase key).1 = .ok probe) :
    ∃ again, t.Reinserted key probe again := by
  rcases h.erase_cases key with ⟨hmem, offset, hmeets, heq⟩ | ⟨_, missed, _, heq⟩
  · rw [heq] at herase
    obtain rfl : t.probeAt key offset = probe := Except.ok.inj herase
    have hw := hmeets.written_bury
    obtain ⟨first, hle, hfirst, htombstone⟩ := hmeets.exists_tombstone hw
    have hinsert := (h.bury hmeets).insert_eq hfirst
    -- Copies of the key may lie behind the new one, but none lies before it.
    have hfound := hfirst.meets_occupy_of_before
      fun earlier hearlier => hmeets.along_ne_occupied hw (Nat.lt_of_lt_of_le hearlier hle)
    have hpos : 0 < t.size := by
      rw [h.size_eq]
      exact List.length_pos_of_mem hmem
    refine ⟨(t.bury (place key t.capacity offset)).probeAt key first, ?_⟩
    refine
      { insert_eq := by rw [heq, hinsert]
        probes_le := hle
        slot_eq := by rw [heq, probeAt_slot, slot?_place hfirst.lt, htombstone]
        find?_eq := ?_
        size_eq := ?_
        tombstones_eq := ?_
        keys_perm := ?_ }
    · rw [heq, hinsert, find?_eq_of_locate hfound.locate_eq, hfirst.written_occupy.probeAt_eq]
    · rw [heq, hinsert, occupy_size, bury_size]
      omega
    · rw [heq, hinsert, occupy_tombstones_of_reused htombstone, bury_tombstones]
      omega
    · rw [heq, hinsert]
      exact hfirst.keys_occupy.trans hmeets.keys_bury
  · rw [heq] at herase
    cases herase

/-- On every table that calls can make, a key that is deleted with success and then inserted again
comes to a tombstone no further away than it was, is found there, and leaves the counts and the
keys as they were. -/
theorem after_reinserted (capacity : Capacity) (script : List Call) (key : String) (probe : Probe)
    (herase : ((after capacity script).erase key).1 = .ok probe) :
    ∃ again, (after capacity script).Reinserted key probe again :=
  (after_represents capacity script).1.wellFormed.exists_reinserted herase

/-- Calls after which a key has a tombstone before its nearest copy, and another copy behind. -/
def crowded : List Call :=
  [.insert "tuna", .insert "tunas", .insert "tuna!", .insert "tunas", .erase "tuna"]

/-- The nearest copy was one step away, and is at its home slot afterwards. -/
theorem after_reinserted_crowded :
    ((after ⟨7, by decide⟩ crowded).erase "tunas").1 = .ok ⟨6, 1⟩ ∧
      (((after ⟨7, by decide⟩ crowded).erase "tunas").2.insert "tunas").1 = .ok ⟨5, 0⟩ ∧
      ∃ again, (after ⟨7, by decide⟩ crowded).Reinserted "tunas" ⟨6, 1⟩ again := by
  have herase : ((after ⟨7, by decide⟩ crowded).erase "tunas").1 = .ok ⟨6, 1⟩ := by
    decide +kernel
  refine ⟨herase, by decide +kernel, ?_⟩
  exact after_reinserted ⟨7, by decide⟩ crowded "tunas" ⟨6, 1⟩ herase

/-! ## Empty slots -/

/-- The slots that no key was ever in. -/
def emptySlots (t : Table) : Set Nat := {index | t.slot? index = some .empty}

theorem mem_emptySlots : index ∈ t.emptySlots ↔ index < t.capacity ∧ t.content index = .empty :=
  slot?_eq_some_iff

/-- What a walk meets is empty if it has come to one of the empty slots. -/
theorem place_mem_emptySlots_iff (hlt : offset < t.capacity) :
    place key t.capacity offset ∈ t.emptySlots ↔ t.along key offset = .empty := by
  rw [mem_emptySlots]
  constructor
  · intro hmem
    exact hmem.2
  · intro hempty
    exact ⟨place_lt key (Nat.zero_lt_of_lt hlt) offset, hempty⟩

/-- What is written is not empty, so that no slot becomes empty. -/
theorem Written.emptySlots_subset (hw : Written t t' index slot) (hslot : slot ≠ .empty) :
    t'.emptySlots ⊆ t.emptySlots := by
  intro other hother
  obtain ⟨hlt, hempty⟩ := mem_emptySlots.mp hother
  have hne : other ≠ index := by
    intro heq
    rw [heq, hw.content_self] at hempty
    exact hslot hempty
  rw [hw.capacity] at hlt
  rw [hw.content_of_ne hne] at hempty
  exact mem_emptySlots.mpr ⟨hlt, hempty⟩

/-- No call makes a slot empty. -/
theorem WellFormed.emptySlots_leaves_subset (h : t.WellFormed) (call : Call) :
    (call.leaves t).emptySlots ⊆ t.emptySlots := by
  cases call with
  | insert key =>
      show (t.insert key).2.emptySlots ⊆ t.emptySlots
      rcases h.insert_cases key with ⟨_, offset, hfirst, heq⟩ | ⟨_, heq⟩
      · rw [heq]
        exact hfirst.written_occupy.emptySlots_subset (by simp)
      · rw [heq]
  | erase key =>
      show (t.erase key).2.emptySlots ⊆ t.emptySlots
      rcases h.erase_cases key with ⟨_, offset, hmeets, heq⟩ | ⟨_, probes, _, heq⟩
      · rw [heq]
        exact hmeets.written_bury.emptySlots_subset (by simp)
      · rw [heq]
  | find key => exact Set.Subset.refl _
  | contains key => exact Set.Subset.refl _
  | keys => exact Set.Subset.refl _

/-- A script that goes on makes no slot empty. -/
theorem emptySlots_append_subset (capacity : Capacity) (script later : List Call) :
    (after capacity (script ++ later)).emptySlots ⊆ (after capacity script).emptySlots := by
  induction later using List.reverseRecOn with
  | nil => rw [List.append_nil]
  | append_singleton later call ih =>
      have hwell := (after_represents capacity (script ++ later)).1.wellFormed
      rw [← List.append_assoc, after_snoc]
      exact (hwell.emptySlots_leaves_subset call).trans ih

/-! ## Searches in vain -/

/-- With fewer empty slots a search makes at least as many steps in vain. -/
theorem Misses.le_of_emptySlots_subset (hcapacity : t'.capacity = t.capacity)
    (hsubset : t'.emptySlots ⊆ t.emptySlots) (h : t.Misses key probes)
    (h' : t'.Misses key probes') : probes ≤ probes' := by
  -- An end that comes sooner is an empty slot, which the earlier search has not met there.
  by_contra hsooner
  have hlt : probes' < t.capacity := Nat.lt_of_lt_of_le (by omega) h.le
  have hlt' : probes' < t'.capacity := by omega
  have hmem := hsubset ((place_mem_emptySlots_iff hlt').mpr (h'.here hlt'))
  rw [hcapacity] at hmem
  have hends := h.before probes' (by omega)
  rw [(place_mem_emptySlots_iff hlt).mp hmem] at hends
  cases hends

/-- Without empty slots a search goes over the whole lap in vain. -/
theorem Misses.eq_capacity (hnone : t.emptySlots = ∅) (h : t.Misses key probes) :
    probes = t.capacity := by
  by_contra hne
  have hlt : probes < t.capacity := Nat.lt_of_le_of_ne h.le hne
  have hmem := (place_mem_emptySlots_iff hlt).mpr (h.here hlt)
  rw [hnone] at hmem
  exact hmem

/-- A deletion of a key that is not held reports the steps of its search. -/
theorem WellFormed.exists_misses (h : t.WellFormed) (hmem : key ∉ t.keys) :
    ∃ probes, t.Misses key probes ∧ (t.erase key).1 = .error (.notFound key probes) := by
  rcases h.erase_cases key with ⟨hin, _⟩ | ⟨_, probes, hmisses, heq⟩
  · exact absurd hin hmem
  · exact ⟨probes, hmisses, by rw [heq]⟩

/-- From one moment of a script to a later one, deletions miss keys after more steps, or as many. -/
structure MissesGrow (capacity : Capacity) (script later : List Call) : Prop where
  /-- No slot has become empty. -/
  emptySlots : (after capacity (script ++ later)).emptySlots ⊆ (after capacity script).emptySlots
  /-- A key that is not there at either moment is missed after at least as many steps, whatever
  was done to it in between. -/
  probes_le : ∀ key, key ∉ (after capacity script).keys →
    key ∉ (after capacity (script ++ later)).keys → ∃ probes probes',
    ((after capacity script).erase key).1 = .error (.notFound key probes) ∧
    ((after capacity (script ++ later)).erase key).1 = .error (.notFound key probes') ∧
    probes ≤ probes'
  /-- If no slot was empty, then every key that is not there is missed after a whole lap. -/
  lap : (after capacity script).emptySlots = ∅ →
    ∀ key, key ∉ (after capacity (script ++ later)).keys →
    ((after capacity (script ++ later)).erase key).1 = .error (.notFound key capacity.slots)

/-- The empty slots of a table only become fewer, so that misses only become more expensive. -/
theorem after_missesGrow (capacity : Capacity) (script later : List Call) :
    MissesGrow capacity script later := by
  obtain ⟨⟨h, _⟩, hcapacity⟩ := after_represents capacity script
  obtain ⟨⟨h', _⟩, hcapacity'⟩ := after_represents capacity (script ++ later)
  have hsubset := emptySlots_append_subset capacity script later
  refine ⟨hsubset, ?_, ?_⟩
  · intro key hmem hmem'
    obtain ⟨probes, hmisses, heq⟩ := h.exists_misses hmem
    obtain ⟨probes', hmisses', heq'⟩ := h'.exists_misses hmem'
    have hle := hmisses.le_of_emptySlots_subset (hcapacity'.trans hcapacity.symm) hsubset hmisses'
    exact ⟨probes, probes', heq, heq', hle⟩
  · intro hnone key hmem'
    obtain ⟨probes', hmisses', heq'⟩ := h'.exists_misses hmem'
    have hnone' : (after capacity (script ++ later)).emptySlots = ∅ :=
      Set.subset_eq_empty hsubset hnone
    rw [heq', hmisses'.eq_capacity hnone', hcapacity']

end ProbeForest.Table
