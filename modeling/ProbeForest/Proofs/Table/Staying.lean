import ProbeForest.Proofs.Table.Invariant

/-!
# Stored keys stay where they are

A search for a key notices only two kinds of slots: those that hold the key,
and empty ones.  A deletion of another key changes a slot of neither kind into
a slot of neither kind, so it does not show in any search.  An insertion of
another key may fill an empty slot, but an empty slot on the way to a stored
key there is none.  So a key that was stored anew is found at the slot that
its insertion took, after the steps that its insertion made, whatever is done
to other keys.

## Main results

* `Written.meets`, `Written.misses` — what a search needs of a slot that is
  written, so that it ends as before.
* `WellFormed.locate_erase_of_ne`, `WellFormed.locate_insert_of_ne` — the calls
  on other keys.
* `WellFormed.locate_leaves` — the step lemma: a call that leaves the key alone
  leaves it where it is.
* `after_staysPut` — all of it, said of tables that calls have made.
-/

namespace ProbeForest.Table

variable {t t' : Table} {key other : String} {slot : Slot} {index offset probes : Nat}
  {probe : Probe}

/-! ## Searches and a slot that is written -/

theorem Written.probeAt_eq (hw : Written t t' index slot) (key : String) (offset : Nat) :
    t'.probeAt key offset = t.probeAt key offset := by
  rw [probeAt, hw.capacity, probeAt]

/-- What was met before and is not the old content of the slot is met still. -/
theorem Written.along_of_ne (hw : Written t t' index slot)
    (hne : t.content index ≠ t.along key offset) : t'.along key offset = t.along key offset := by
  rw [hw.along_eq, if_neg]
  rintro rfl
  exact hne rfl

section Writing

variable (hw : Written t t' index slot) (hslot : Slot.endsSearch key slot = false)

include hw hslot

theorem Written.passed (h : Slot.endsSearch key (t.along key offset) = false) :
    Slot.endsSearch key (t'.along key offset) = false := by
  rw [hw.along_eq]
  split
  · exact hslot
  · exact h

/-- A key is met at the same slot unless it is overwritten. -/
theorem Written.meets (hold : t.content index ≠ .occupied key) (h : t.Meets key offset) :
    t'.Meets key offset := by
  have hhere : t'.along key offset = .occupied key := by
    rw [hw.along_of_ne (by rwa [h.here]), h.here]
  refine ⟨⟨?_, endsSearch_iff.mpr (Or.inr hhere), fun earlier hearlier => ?_⟩, hhere⟩
  · rw [hw.capacity]
    exact h.stop.lt
  · exact hw.passed hslot (h.stop.before earlier hearlier)

/-- A key is missed after the same steps unless an empty slot is overwritten. -/
theorem Written.misses (hold : t.content index ≠ .empty) (h : t.Misses key probes) :
    t'.Misses key probes := by
  refine ⟨?_, fun earlier hearlier => hw.passed hslot (h.before earlier hearlier), fun hlt => ?_⟩
  · rw [hw.capacity]
    exact h.le
  · rw [hw.capacity] at hlt
    rw [hw.along_of_ne (by rwa [h.here hlt]), h.here hlt]

end Writing

/-! ## Calls on other keys -/

theorem endsSearch_occupied_of_ne (hne : other ≠ key) :
    Slot.endsSearch key (.occupied other) = false := by
  simpa [Slot.endsSearch] using hne

/-- A deletion of another key does not show in a search. -/
theorem WellFormed.locate_erase_of_ne (h : t.WellFormed) (hne : other ≠ key) :
    (t.erase other).2.locate key = t.locate key := by
  rcases h.erase_cases other with ⟨_, there, hother, heq⟩ | ⟨_, _, _, heq⟩
  · have hw := hother.written_bury
    have hcontent : t.content (place other t.capacity there) = .occupied other := hother.here
    rw [heq]
    rcases locate_cases t key with ⟨offset, hmeets⟩ | ⟨probes, hmisses⟩
    · have hmeets' := hw.meets rfl (by simpa [hcontent] using hne) hmeets
      rw [hmeets.locate_eq, hmeets'.locate_eq, hw.probeAt_eq]
    · have hmisses' := hw.misses rfl (by simp [hcontent]) hmisses
      rw [hmisses.locate_eq, hmisses'.locate_eq]
  · rw [heq]

/-- An insertion of another key does not show in a search for a key that is stored. -/
theorem WellFormed.locate_insert_of_ne (h : t.WellFormed) (hne : other ≠ key)
    (hmem : key ∈ t.keys) : (t.insert other).2.locate key = t.locate key := by
  rcases h.insert_cases other with ⟨_, there, hfirst, heq⟩ | ⟨_, heq⟩
  · have hw := hfirst.written_occupy
    have hold : t.content (place other t.capacity there) ≠ .occupied key := by
      intro hkey
      have hfree : (t.content (place other t.capacity there)).isFree = true := hfirst.passes
      rw [hkey] at hfree
      cases hfree
    obtain ⟨offset, hmeets⟩ := h.exists_meets hmem
    have hmeets' := hw.meets (endsSearch_occupied_of_ne hne) hold hmeets
    rw [heq, hmeets.locate_eq, hmeets'.locate_eq, hw.probeAt_eq]
  · rw [heq]

/-! ## A key that is stored anew -/

/-- A key that was put into the first free slot is met there, unless a copy of it lies before. -/
theorem StopsFirst.meets_occupy_of_before (hfirst : t.StopsFirst key Slot.isFree offset)
    (hbefore : ∀ earlier < offset, t.along key earlier ≠ .occupied key) :
    (t.occupy (place key t.capacity offset) key).Meets key offset := by
  have hw := hfirst.written_occupy
  have hhere : (t.occupy (place key t.capacity offset) key).along key offset = .occupied key := by
    rw [hw.along_eq, if_pos rfl]
  refine ⟨⟨?_, endsSearch_iff.mpr (Or.inr hhere), fun earlier hearlier => ?_⟩, hhere⟩
  · rw [hw.capacity]
    exact hfirst.lt
  · have hlt : earlier < t.capacity := Nat.lt_trans hearlier hfirst.lt
    have hplace : place key t.capacity earlier ≠ place key t.capacity offset := fun heq =>
      Nat.ne_of_lt hearlier (place_inj hlt hfirst.lt heq)
    have hbusy := hfirst.before earlier hearlier
    rw [hw.along_eq, if_neg hplace]
    cases hcontent : t.along key earlier with
    | empty =>
        rw [hcontent] at hbusy
        cases hbusy
    | tombstone =>
        rw [hcontent] at hbusy
        cases hbusy
    | occupied stored =>
        refine endsSearch_occupied_of_ne ?_
        rintro rfl
        exact hbefore earlier hearlier hcontent

/-- No slot before a free one holds a key that the table does not hold. -/
theorem StopsFirst.meets_occupy (hfirst : t.StopsFirst key Slot.isFree offset)
    (hnew : key ∉ t.keys) : (t.occupy (place key t.capacity offset) key).Meets key offset := by
  refine hfirst.meets_occupy_of_before fun earlier hearlier hkey => hnew ?_
  exact mem_keys_iff_along.mpr ⟨earlier, Nat.lt_trans hearlier hfirst.lt, hkey⟩

/-- A key that was not stored is found where its insertion has put it. -/
theorem WellFormed.locate_insert_self (h : t.WellFormed) (hnew : key ∉ t.keys)
    (hinsert : (t.insert key).1 = .ok probe) : (t.insert key).2.locate key = .ok probe := by
  rcases h.insert_cases key with ⟨_, offset, hfirst, heq⟩ | ⟨_, heq⟩
  · rw [heq] at hinsert
    obtain rfl : t.probeAt key offset = probe := Except.ok.inj hinsert
    rw [heq, (hfirst.meets_occupy hnew).locate_eq, hfirst.written_occupy.probeAt_eq]
  · rw [heq] at hinsert
    cases hinsert

/-! ## Runs -/

/-- A deletion answers what the search has found. -/
theorem erase_fst (t : Table) (key : String) :
    (t.erase key).1 = (t.locate key).mapError (TableError.notFound key) := by
  unfold Table.erase
  cases t.locate key <;> rfl

/-- A deletion of another key does not show in the answer of a deletion. -/
theorem WellFormed.erase_fst_of_ne (h : t.WellFormed) (hne : other ≠ key) :
    ((t.erase other).2.erase key).1 = (t.erase key).1 := by
  rw [erase_fst, h.locate_erase_of_ne hne, erase_fst]

theorem erase_fst_of_locate (h : t.locate key = .ok probe) : (t.erase key).1 = .ok probe := by
  rw [erase_fst, h]
  rfl

theorem find?_eq_of_locate (h : t.locate key = .ok probe) : t.find? key = some probe := by
  rw [find?, h]
  rfl

/-- A call leaves a key alone that it neither inserts nor deletes with success. -/
structure Call.Spares (call : Call) (t : Table) (key : String) : Prop where
  insert : call ≠ .insert key
  erase : call = .erase key → ∀ probe, (t.erase key).1 ≠ .ok probe

/-- A key stays where it is during a call that leaves it alone. -/
theorem WellFormed.locate_leaves (h : t.WellFormed) {call : Call} (hspares : call.Spares t key)
    (hlocate : t.locate key = .ok probe) : (call.leaves t).locate key = .ok probe := by
  cases call with
  | insert other =>
      have hne : other ≠ key := fun heq => hspares.insert (heq ▸ rfl)
      exact (h.locate_insert_of_ne hne (mem_keys_of_locate hlocate)).trans hlocate
  | erase other =>
      have hne : other ≠ key := fun heq =>
        hspares.erase (heq ▸ rfl) probe (erase_fst_of_locate hlocate)
      exact (h.locate_erase_of_ne hne).trans hlocate
  | find other => exact hlocate
  | contains other => exact hlocate
  | keys => exact hlocate

/-- From one moment of a script to a later one, every call leaves the key alone. -/
def Undisturbed (capacity : Capacity) (key : String) (script later : List Call) : Prop :=
  ∀ done call rest, later = done ++ call :: rest →
    call.Spares (after capacity (script ++ done)) key

/-- A key stays where it is until a call does not leave it alone. -/
theorem Undisturbed.locate {capacity : Capacity} {script later : List Call}
    (h : Undisturbed capacity key script later)
    (hlocate : (after capacity script).locate key = .ok probe) :
    (after capacity (script ++ later)).locate key = .ok probe := by
  induction later using List.reverseRecOn with
  | nil => rwa [List.append_nil]
  | append_singleton later call ih =>
      have hbefore : Undisturbed capacity key script later := by
        intro done earlier rest heq
        refine h done earlier (rest ++ [call]) ?_
        rw [heq, List.append_assoc, List.cons_append]
      have hwell := (after_represents capacity (script ++ later)).1.wellFormed
      rw [← List.append_assoc, after_snoc]
      exact hwell.locate_leaves (h later call [] rfl) (ih hbefore)

/-- What a table that a script has left does with a key while calls are made on other keys. -/
structure StaysPut (capacity : Capacity) (script : List Call) (key : String) : Prop where
  /-- A deletion of another key leaves the answer of a search as it was. -/
  find_erase : ∀ other ≠ key,
    ((after capacity script).erase other).2.find? key = (after capacity script).find? key
  /-- It leaves the answer of a deletion as it was, with the number of steps of a miss. -/
  erase_erase : ∀ other ≠ key,
    (((after capacity script).erase other).2.erase key).1 = ((after capacity script).erase key).1
  /-- An insertion of another key leaves the answer of a search as it was if the key is stored. -/
  find_insert : ∀ other ≠ key, key ∈ (after capacity script).keys →
    ((after capacity script).insert other).2.find? key = (after capacity script).find? key
  /-- A key that was not stored and is inserted is found there until it is not left alone. -/
  find_later : ∀ probe later, key ∉ (after capacity script).keys →
    ((after capacity script).insert key).1 = .ok probe →
    Undisturbed capacity key (script ++ [.insert key]) later →
    (after capacity (script ++ .insert key :: later)).find? key = some probe
  /-- And it is there that a deletion finds it. -/
  erase_later : ∀ probe later, key ∉ (after capacity script).keys →
    ((after capacity script).insert key).1 = .ok probe →
    Undisturbed capacity key (script ++ [.insert key]) later →
    ((after capacity (script ++ .insert key :: later)).erase key).1 = .ok probe

/-- A stored key never moves, whatever calls are made on other keys. -/
theorem after_staysPut (capacity : Capacity) (script : List Call) (key : String) :
    StaysPut capacity script key := by
  have hwell := (after_represents capacity script).1.wellFormed
  have hlater : ∀ probe later, key ∉ (after capacity script).keys →
      ((after capacity script).insert key).1 = .ok probe →
      Undisturbed capacity key (script ++ [.insert key]) later →
      (after capacity (script ++ .insert key :: later)).locate key = .ok probe := by
    intro probe later hnew hinsert hlater
    have hstored : (after capacity (script ++ [.insert key])).locate key = .ok probe := by
      rw [after_snoc]
      exact hwell.locate_insert_self hnew hinsert
    rw [← List.singleton_append, ← List.append_assoc]
    exact hlater.locate hstored
  exact
    { find_erase := fun other hne => by rw [find?, hwell.locate_erase_of_ne hne, find?]
      erase_erase := fun other hne => by rw [erase_fst, hwell.locate_erase_of_ne hne, erase_fst]
      find_insert := fun other hne hmem => by
        rw [find?, hwell.locate_insert_of_ne hne hmem, find?]
      find_later := fun probe later hnew hinsert hspared =>
        find?_eq_of_locate (hlater probe later hnew hinsert hspared)
      erase_later := fun probe later hnew hinsert hspared =>
        erase_fst_of_locate (hlater probe later hnew hinsert hspared) }

/-- The keys before it on its way are deleted and replaced, and the fourth key stays in slot 1. -/
example : (after ⟨7, by decide⟩ [.insert "tuna", .insert "tunas", .insert "tuna!",
    .insert "tuna2", .erase "tunas", .insert "tuna3", .erase "tuna"]).find? "tuna2" =
    some ⟨1, 3⟩ := by
  decide +kernel

end ProbeForest.Table
