import ProbeForest.Proofs.Table.Invariant
import ProbeForest.Proofs.Traversal

/-!
# Many insertions, many deletions

Keys that are inserted one after another are stored until the room is used up,
and the rest is refused.  Keys that are deleted one after another are found as
long as copies of them are left: of each key as many copies as were asked for,
or as many as there were.

## Main results

* `WellFormed.keys_insertAll_take`, `WellFormed.fullCount_insertAll` — what many
  insertions store, and how many are refused.
* `WellFormed.removals_eraseAll` — how often many deletions find a key.
* `WellFormed.isOk_of_mem_eraseAll` — deletions of keys that are all there.
-/

namespace ProbeForest.Table

variable {t : Table} {key : String} {keys : List String} {answer : Except TableError Probe}

/-! ## Insertions -/

theorem run_insertAll_cons (key : String) (keys : List String) (t : Table) :
    (insertAll (key :: keys)).run t =
      ((t.insert key).1 :: ((insertAll keys).run (t.insert key).2).1,
        ((insertAll keys).run (t.insert key).2).2) :=
  run_mapM_cons _ key keys t

/-- A series of operations is made on well-formed tables of one capacity. -/
theorem wellFormed_insertAll (h : t.WellFormed) (keys : List String) :
    ((insertAll keys).run t).2.WellFormed ∧
      ((insertAll keys).run t).2.capacity = t.capacity := by
  refine invariant_run_mapM (P := fun s : Table => s.WellFormed ∧ s.capacity = t.capacity)
    (fun key s hs => ?_) keys ⟨h, rfl⟩
  exact ⟨hs.1.insert key, (hs.1.capacity_insert key).trans hs.2⟩

/-- The insertion failed since the table was full. -/
def failedFull : Except TableError Probe → Bool
  | .error (.full _) => true
  | _ => false

/-- The number of insertions that failed since the table was full. -/
def fullCount (results : List (Except TableError Probe)) : Nat := results.countP failedFull

theorem fullCount_cons (result : Except TableError Probe)
    (results : List (Except TableError Probe)) :
    fullCount (result :: results) = fullCount results + if failedFull result then 1 else 0 :=
  List.countP_cons

/-- An insertion fails only since the table is full. -/
theorem WellFormed.failedFull_of_mem_insertAll (h : t.WellFormed)
    (hmem : answer ∈ ((insertAll keys).run t).1) : failedFull answer = !answer.isOk := by
  obtain ⟨key, _, s, hs, rfl⟩ :=
    exists_of_mem_run_mapM (P := WellFormed) (fun key _ hs => hs.insert key) h hmem
  show failedFull (s.insert key).1 = !(s.insert key).1.isOk
  rcases hs.insert_cases key with ⟨_, offset, _, heq⟩ | ⟨_, heq⟩
  · rw [heq]
    rfl
  · rw [heq]
    rfl

/-- The number of keys that a table can still take. -/
def room (t : Table) : Nat := t.capacity - t.size

/-- An insertion needs room for one key. -/
theorem WellFormed.room_insert (h : t.WellFormed) (key : String) :
    (t.insert key).2.room = t.room - 1 := by
  rcases h.insert_cases key with ⟨_, offset, hfirst, heq⟩ | ⟨hfull, heq⟩
  · rw [heq, room, hfirst.written_occupy.capacity, occupy_size, room]
    omega
  · rw [heq, room, hfull, Nat.sub_self]

/-- The insertions that fail are those beyond the room that was left. -/
theorem WellFormed.fullCount_insertAll (h : t.WellFormed) (keys : List String) :
    fullCount ((insertAll keys).run t).1 = keys.length - t.room := by
  induction keys generalizing t with
  | nil => exact (Nat.zero_sub _).symm
  | cons key keys ih =>
      rw [run_insertAll_cons, fullCount_cons, List.length_cons, ih (h.insert key), h.room_insert]
      rcases h.insert_cases key with ⟨hroom, offset, _, heq⟩ | ⟨hfull, heq⟩
      · have hpos : 0 < t.room := Nat.sub_pos_of_lt hroom
        rw [heq]
        show keys.length - (t.room - 1) + 0 = _
        omega
      · have hzero : t.room = 0 := by rw [room, hfull, Nat.sub_self]
        rw [heq]
        show keys.length - (t.room - 1) + 1 = _
        omega

/-- Keys are stored until the room is used up. -/
theorem WellFormed.keys_insertAll_take (h : t.WellFormed) (keys : List String) :
    ((insertAll keys).run t).2.keys.Perm (keys.take t.room ++ t.keys) := by
  induction keys generalizing t with
  | nil =>
      rw [List.take_nil]
      exact List.Perm.refl _
  | cons key keys ih =>
      have hkeys := ih (h.insert key)
      rw [h.room_insert] at hkeys
      rw [run_insertAll_cons]
      rcases h.insert_cases key with ⟨hroom, offset, hfirst, heq⟩ | ⟨hfull, heq⟩
      · obtain ⟨rest, hrest⟩ : ∃ rest, t.room = rest + 1 :=
          Nat.exists_eq_succ_of_ne_zero (Nat.sub_ne_zero_of_lt hroom)
        rw [heq, hrest] at hkeys
        rw [heq, hrest, List.take_succ_cons]
        exact hkeys.trans ((hfirst.keys_occupy.append_left _).trans List.perm_middle)
      · have hzero : t.room = 0 := by rw [room, hfull, Nat.sub_self]
        rw [heq, hzero] at hkeys
        rw [heq, hzero]
        exact hkeys

/-- If there is room for all keys, then all are stored. -/
theorem WellFormed.keys_insertAll (h : t.WellFormed) (hroom : keys.length ≤ t.room) :
    ((insertAll keys).run t).2.keys.Perm (keys ++ t.keys) := by
  have hkeys := h.keys_insertAll_take keys
  rwa [List.take_of_length_le hroom] at hkeys

/-! ## Deletions -/

theorem run_eraseAll_cons (key : String) (keys : List String) (t : Table) :
    (eraseAll (key :: keys)).run t =
      ((t.erase key).1 :: ((eraseAll keys).run (t.erase key).2).1,
        ((eraseAll keys).run (t.erase key).2).2) :=
  run_mapM_cons _ key keys t

/-- No search makes as many steps as there are slots. -/
theorem WellFormed.probes_lt_of_mem_eraseAll (h : t.WellFormed) {probe : Probe}
    (hmem : .ok probe ∈ ((eraseAll keys).run t).1) : probe.probes < t.capacity := by
  obtain ⟨key, _, s, ⟨hs, hcapacity⟩, heq⟩ := exists_of_mem_run_mapM
    (P := fun s : Table => s.WellFormed ∧ s.capacity = t.capacity)
    (fun key s hs => ⟨hs.1.erase key, (hs.1.capacity_erase key).trans hs.2⟩) ⟨h, rfl⟩ hmem
  have herase : (s.erase key).1 = .ok probe := heq.symm
  rcases hs.erase_cases key with ⟨_, offset, hmeets, heq'⟩ | ⟨_, probes, _, heq'⟩
  · rw [heq'] at herase
    obtain rfl := Except.ok.inj herase
    rw [← hcapacity]
    exact hmeets.stop.lt
  · rw [heq'] at herase
    cases herase

/-- How often a key was found among keys that were deleted with these answers. -/
def removals (key : String) (keys : List String) (answers : List (Except TableError Probe)) : Nat :=
  (keys.zip answers).countP fun (deleted, answer) => deleted = key && answer.isOk

theorem removals_cons (key deleted : String) (keys : List String)
    (answer : Except TableError Probe) (answers : List (Except TableError Probe)) :
    removals key (deleted :: keys) (answer :: answers) =
      removals key keys answers + if deleted = key ∧ answer.isOk = true then 1 else 0 := by
  rw [removals, List.zip_cons_cons, List.countP_cons, removals]
  simp

theorem Meets.count_bury {offset : Nat} (h : t.Meets key offset) (other : String) :
    (t.bury (place key t.capacity offset)).keys.count other + (if key = other then 1 else 0) =
      t.keys.count other := by
  rw [← h.keys_bury.count_eq other, List.count_cons]
  simp

/-- Deletions find as many copies of a key as they ask for, or as many as there are. -/
theorem WellFormed.removals_eraseAll (h : t.WellFormed) (other : String) (keys : List String) :
    removals other keys ((eraseAll keys).run t).1 =
      min (keys.count other) (t.keys.count other) := by
  induction keys generalizing t with
  | nil => rw [List.count_nil, Nat.zero_min, removals, List.zip_nil_left, List.countP_nil]
  | cons key keys ih =>
      rw [run_eraseAll_cons, removals_cons, ih (h.erase key), List.count_cons]
      rcases h.erase_cases key with ⟨_, offset, hmeets, heq⟩ | ⟨hmem, probes, _, heq⟩
      · have hcount := hmeets.count_bury other
        rw [heq]
        by_cases hkey : key = other
        · simp [hkey, Except.isOk, Except.toBool] at hcount ⊢
          omega
        · simp [hkey] at hcount ⊢
          omega
      · rw [heq]
        by_cases hkey : key = other
        · subst hkey
          simp [List.count_eq_zero_of_not_mem hmem, Except.isOk, Except.toBool]
        · simp [hkey, Except.isOk, Except.toBool]

/-- Keys of which there are enough copies are all found. -/
theorem WellFormed.isOk_of_mem_eraseAll (h : t.WellFormed)
    (henough : ∀ key, keys.count key ≤ t.keys.count key)
    (hmem : answer ∈ ((eraseAll keys).run t).1) : answer.isOk = true := by
  induction keys generalizing t with
  | nil => cases hmem
  | cons key keys ih =>
      rw [run_eraseAll_cons, List.mem_cons] at hmem
      rcases h.erase_cases key with ⟨_, offset, hmeets, heq⟩ | ⟨hnone, _⟩
      · rw [heq] at hmem
        rcases hmem with rfl | hmem
        · rfl
        · refine ih (h.bury hmeets) (fun other => ?_) hmem
          have hcount := hmeets.count_bury other
          have hother := henough other
          rw [List.count_cons] at hother
          simp only [beq_iff_eq] at hother
          omega
      · have hkey := henough key
        rw [List.count_cons_self, List.count_eq_zero_of_not_mem hnone] at hkey
        omega

end ProbeForest.Table
