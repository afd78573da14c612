import ProbeForest.Proofs.Table.InsertionOrder
import ProbeForest.Proofs.Table.Staying

/-!
# How long a walk can be

A lap meets every slot once, in the order of the slots but for where it
starts.  A walk is the beginning of a lap, so it has made no more steps than
there are slots of the kind that it passes.  An insertion passes slots with
live keys, and the size counts them.  A search passes slots that a key is in
or was in, and these are counted by the size and the tombstones together; a
search that finds its key ends at one more of them.

When keys are inserted one after another, the size grows by one at most each
time, so that the bounds of the single insertions add up to a triangular
number.

## Main results

* `lap_eq_rotate` — a lap is a rotation of the slots.
* `steps_le_countP` — a walk makes no more steps than there are slots to pass.
* `WellFormed.probeBounds` — the bounds of insertions, hits and misses.
* `WellFormed.totalSteps_insertAll_le` — the run lemma, for many insertions.
* `after_probeBounds` — the same, said of tables that calls have made.
-/

namespace ProbeForest.Table

variable {t : Table} {key : String} {offset probes : Nat} {probe : Probe}

/-! ## A walk is the beginning of a lap -/

/-- A lap meets the slots in their order, starting at the home slot of the key. -/
theorem lap_eq_rotate (t : Table) (key : String) :
    (List.range t.capacity).map (t.along key) = t.slots.toList.rotate (home key t.capacity) := by
  have hlength : t.slots.toList.length = t.capacity := rfl
  apply List.ext_getElem
  · rw [List.length_map, List.length_range, List.length_rotate, hlength]
  · intro offset hoffset hrotate
    have hpos : 0 < t.capacity := by
      rw [List.length_rotate, hlength] at hrotate
      omega
    have hlt : place key t.capacity offset < t.slots.toList.length := place_lt key hpos offset
    rw [List.getElem_map, List.getElem_range, List.getElem_rotate, along, content_of_lt hlt]
    simp only [place, hlength, Nat.add_comm]

theorem lap_perm (t : Table) (key : String) :
    ((List.range t.capacity).map (t.along key)).Perm t.slots.toList := by
  rw [lap_eq_rotate]
  exact List.rotate_perm _ _

/-- A walk that has passed only slots of one kind has made no more steps than there are such
slots. -/
theorem steps_le_countP (key : String) {kind : Slot → Bool} (hle : offset ≤ t.capacity)
    (h : ∀ earlier < offset, kind (t.along key earlier) = true) :
    offset ≤ t.slots.toList.countP kind := by
  have hpassed : ((List.range offset).map (t.along key)).countP kind = offset := by
    have hall : ∀ slot ∈ (List.range offset).map (t.along key), kind slot = true := by
      simpa using h
    rw [List.countP_eq_length.mpr hall, List.length_map, List.length_range]
  have hbeginning := (List.range_sublist.mpr hle).map (t.along key)
  calc
    offset = ((List.range offset).map (t.along key)).countP kind := hpassed.symm
    _ ≤ ((List.range t.capacity).map (t.along key)).countP kind := hbeginning.countP_le
    _ = t.slots.toList.countP kind := (t.lap_perm key).countP_eq kind

/-! ## Slots that are passed -/

/-- A key is in the slot, or was. -/
def Slot.isUsed : Slot → Bool
  | empty => false
  | tombstone | occupied _ => true

theorem Slot.isUsed_of_endsSearch_eq_false {slot : Slot} (h : slot.endsSearch key = false) :
    slot.isUsed = true := by
  cases slot with
  | empty => cases h
  | tombstone => rfl
  | occupied stored => rfl

theorem countP_isUsed (slots : List Slot) :
    slots.countP Slot.isUsed = slots.countP Slot.isLive + slots.count .tombstone := by
  induction slots with
  | nil => rfl
  | cons slot slots ih =>
      rw [List.countP_cons, List.countP_cons, List.count_cons, ih]
      cases slot <;> simp [Slot.isUsed, Slot.isLive, Slot.key?] <;> omega

/-- The slots in use are those of the live keys and the tombstones. -/
theorem WellFormed.countP_isUsed (h : t.WellFormed) :
    t.slots.toList.countP Slot.isUsed = t.size + t.tombstones := by
  rw [Table.countP_isUsed, h.size_eq_countP, h.tombstones_eq]

/-! ## The bounds of one operation -/

/-- An insertion passes only slots with live keys. -/
theorem StopsFirst.le_size (hfirst : t.StopsFirst key Slot.isFree offset) (h : t.WellFormed) :
    offset ≤ t.size := by
  rw [h.size_eq_countP]
  refine steps_le_countP key (Nat.le_of_lt hfirst.lt) fun earlier hearlier => ?_
  have hbusy := hfirst.before earlier hearlier
  rw [Slot.isFree_eq_not_isLive] at hbusy
  simpa using hbusy

/-- A search that meets its key has passed used slots, and ends at one more. -/
theorem Meets.lt_size_add_tombstones (hmeets : t.Meets key offset) (h : t.WellFormed) :
    offset < t.size + t.tombstones := by
  rw [← h.countP_isUsed]
  refine steps_le_countP key hmeets.stop.lt fun earlier hearlier => ?_
  rcases Nat.lt_or_eq_of_le (Nat.le_of_lt_succ hearlier) with hbefore | rfl
  · exact Slot.isUsed_of_endsSearch_eq_false (hmeets.stop.before earlier hbefore)
  · rw [hmeets.here]
    rfl

/-- A search in vain has passed used slots. -/
theorem Misses.le_size_add_tombstones (hmisses : t.Misses key probes) (h : t.WellFormed) :
    probes ≤ t.size + t.tombstones := by
  rw [← h.countP_isUsed]
  refine steps_le_countP key hmisses.le fun earlier hearlier => ?_
  exact Slot.isUsed_of_endsSearch_eq_false (hmisses.before earlier hearlier)

/-- Bounds of the steps that the operations on a table report for a key. -/
structure ProbeBounds (t : Table) (key : String) : Prop where
  /-- An insertion that succeeds makes as many steps as there are live keys, at most. -/
  insert_le : ∀ probe, (t.insert key).1 = .ok probe → probe.probes ≤ t.size
  /-- A search that succeeds makes as many as there are other live keys and tombstones, at most. -/
  find_le : ∀ probe, t.find? key = some probe →
    0 < t.size ∧ probe.probes ≤ t.size - 1 + t.tombstones
  /-- So does a deletion. -/
  erase_le : ∀ probe, (t.erase key).1 = .ok probe →
    0 < t.size ∧ probe.probes ≤ t.size - 1 + t.tombstones
  /-- A deletion that misses its key makes as many as there are live keys and tombstones, at
  most, also if it goes over a whole lap. -/
  miss_le : ∀ missed probes, (t.erase key).1 = .error (.notFound missed probes) →
    probes ≤ t.size + t.tombstones

theorem WellFormed.hit_le (h : t.WellFormed) (hlocate : t.locate key = .ok probe) :
    0 < t.size ∧ probe.probes ≤ t.size - 1 + t.tombstones := by
  have hpos : 0 < t.size := h.invariant.size_pos key probe hlocate
  rcases locate_cases t key with ⟨offset, hmeets⟩ | ⟨probes, hmisses⟩
  · rw [hmeets.locate_eq] at hlocate
    obtain rfl := Except.ok.inj hlocate
    have hlt := hmeets.lt_size_add_tombstones h
    rw [probeAt_probes]
    omega
  · rw [hmisses.locate_eq] at hlocate
    cases hlocate

theorem WellFormed.probeBounds (h : t.WellFormed) (key : String) : t.ProbeBounds key where
  insert_le probe hinsert := by
    rcases h.insert_cases key with ⟨_, offset, hfirst, heq⟩ | ⟨_, heq⟩
    · rw [heq] at hinsert
      obtain rfl := Except.ok.inj hinsert
      exact hfirst.le_size h
    · rw [heq] at hinsert
      cases hinsert
  find_le probe hfind := by
    cases hlocate : t.locate key with
    | ok found =>
        rw [find?_eq_of_locate hlocate] at hfind
        obtain rfl := Option.some.inj hfind
        exact h.hit_le hlocate
    | error probes =>
        rw [find?, hlocate] at hfind
        cases hfind
  erase_le probe herase := by
    cases hlocate : t.locate key with
    | ok found =>
        rw [erase_fst_of_locate hlocate] at herase
        obtain rfl := Except.ok.inj herase
        exact h.hit_le hlocate
    | error probes =>
        rw [erase_fst, hlocate] at herase
        cases herase
  miss_le missed probes herase := by
    rcases h.erase_cases key with ⟨_, offset, _, heq⟩ | ⟨_, steps, hmisses, heq⟩
    · rw [heq] at herase
      cases herase
    · rw [heq] at herase
      cases herase
      exact hmisses.le_size_add_tombstones h

/-! ## Many insertions -/

theorem WellFormed.stepsOf_insert_le (h : t.WellFormed) (key : String) :
    stepsOf (t.insert key).1 ≤ t.size := by
  cases hinsert : (t.insert key).1 with
  | ok probe => exact (h.probeBounds key).insert_le probe hinsert
  | error e => exact Nat.zero_le _

theorem WellFormed.size_insert_le (h : t.WellFormed) (key : String) :
    (t.insert key).2.size ≤ t.size + 1 := by
  rcases h.insert_cases key with ⟨_, offset, _, heq⟩ | ⟨_, heq⟩
  · rw [heq, occupy_size]
  · rw [heq]
    exact Nat.le_succ _

/-- Each of many insertions meets at most one live key more than the one before. -/
theorem WellFormed.totalSteps_insertAll_le (h : t.WellFormed) (keys : List String) :
    totalSteps ((insertAll keys).run t).1 ≤ ∑ i ∈ Finset.range keys.length, (t.size + i) := by
  induction keys generalizing t with
  | nil => exact Nat.le_refl 0
  | cons key keys ih =>
      have hfirst := h.stepsOf_insert_le key
      have hgrowth := h.size_insert_le key
      have hrest : totalSteps ((insertAll keys).run (t.insert key).2).1 ≤
          ∑ i ∈ Finset.range keys.length, (t.size + (i + 1)) := by
        refine (ih (h.insert key)).trans (Finset.sum_le_sum fun i _ => ?_)
        omega
      rw [run_insertAll_cons, totalSteps_cons, List.length_cons, Finset.sum_range_succ']
      omega

/-- On every table that calls can make, a walk is no longer than the counts of live keys and
tombstones allow.  Into a table without keys, `n` keys are inserted with `n * (n - 1) / 2` steps
at most. -/
theorem after_probeBounds (capacity : Capacity) (script : List Call) (key : String)
    (keys : List String) :
    (after capacity script).ProbeBounds key ∧
      totalSteps ((insertAll keys).run (ofCapacity capacity)).1 ≤
        keys.length * (keys.length - 1) / 2 := by
  refine ⟨(after_represents capacity script).1.wellFormed.probeBounds key, ?_⟩
  have hsum := (wellFormed_ofCapacity capacity).totalSteps_insertAll_le keys
  have hsize : (ofCapacity capacity).size = 0 := rfl
  simp only [hsize, Nat.zero_add] at hsum
  rwa [Finset.sum_range_id] at hsum

/-- Keys with one home slot make as many steps as any three keys can. -/
example : totalSteps ((insertAll ["tuna", "tunas", "tuna!"]).run (ofCapacity ⟨7, by decide⟩)).1 =
    3 * (3 - 1) / 2 := by
  decide +kernel

end ProbeForest.Table
