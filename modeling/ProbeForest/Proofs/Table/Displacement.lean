import ProbeForest.Proofs.Table.Series
import ProbeForest.Proofs.Table.Staying

/-!
# Deletions report where insertions went

A key that is stored stays where it is while other keys are inserted and
deleted, however many they are.  So a series of insertions of different keys
leaves a table in which every one of them is found where its insertion has put
it, and a series of deletions of different keys answers what each of them
would have answered alone.

## Main results

* `WellFormed.locate_insertAll`, `WellFormed.locate_eraseAll` — what a series
  on other keys leaves as it was.
* `WellFormed.eraseAll_fst` — deletions of different keys answer for themselves.
* `WellFormed.insertAll_fst` — insertions of different keys answer what deletions
  will.
-/

namespace ProbeForest.Table

variable {t : Table} {key : String} {keys others : List String} {probe : Probe}

/-! ## A series on other keys -/

/-- A key that is stored stays where it is while other keys are inserted. -/
theorem WellFormed.locate_insertAll (h : t.WellFormed) (hne : key ∉ others)
    (hlocate : t.locate key = .ok probe) :
    ((insertAll others).run t).2.locate key = .ok probe := by
  induction others generalizing t with
  | nil => exact hlocate
  | cons other others ih =>
      obtain ⟨hother, hothers⟩ := List.ne_and_not_mem_of_not_mem_cons hne
      have hstep : (t.insert other).2.locate key = t.locate key :=
        h.locate_insert_of_ne hother.symm (mem_keys_of_locate hlocate)
      rw [run_insertAll_cons]
      exact ih (h.insert other) hothers (hstep.trans hlocate)

/-- Deletions of different keys answer what each of them would answer alone. -/
theorem WellFormed.eraseAll_fst (h : t.WellFormed) (hnodup : keys.Nodup) :
    ((eraseAll keys).run t).1 = keys.map fun key => (t.erase key).1 := by
  induction keys generalizing t with
  | nil => rfl
  | cons key keys ih =>
      obtain ⟨hkey, hkeys⟩ := List.nodup_cons.mp hnodup
      have hlater : keys.map (fun other => ((t.erase key).2.erase other).1) =
          keys.map fun other => (t.erase other).1 := by
        apply List.map_congr_left
        intro other hother
        exact h.erase_fst_of_ne fun heq => hkey (heq ▸ hother)
      rw [run_eraseAll_cons, List.map_cons, ih (h.erase key) hkeys, hlater]

/-- An insertion into a table with room stores its key. -/
theorem WellFormed.exists_insert (h : t.WellFormed) (hroom : 0 < t.room) (key : String) :
    ∃ probe, (t.insert key).1 = .ok probe ∧ (t.insert key).2.keys.Perm (key :: t.keys) := by
  rcases h.insert_cases key with ⟨_, offset, hfirst, heq⟩ | ⟨hfull, _⟩
  · rw [heq]
    exact ⟨_, rfl, hfirst.keys_occupy⟩
  · rw [room, hfull, Nat.sub_self] at hroom
    exact absurd hroom (Nat.lt_irrefl 0)

/-- Insertions of different keys, for which there is room, answer what deletions of these keys
will answer. -/
theorem WellFormed.insertAll_fst (h : t.WellFormed) (hnodup : keys.Nodup)
    (hnew : ∀ key ∈ keys, key ∉ t.keys) (hroom : keys.length ≤ t.room) :
    ((insertAll keys).run t).1 =
      keys.map fun key => (((insertAll keys).run t).2.erase key).1 := by
  induction keys generalizing t with
  | nil => rfl
  | cons key keys ih =>
      obtain ⟨hkey, hkeys⟩ := List.nodup_cons.mp hnodup
      rw [List.length_cons] at hroom
      obtain ⟨probe, hinsert, hperm⟩ := h.exists_insert (Nat.zero_lt_of_lt hroom) key
      have hlocate : (t.insert key).2.locate key = .ok probe :=
        h.locate_insert_self (hnew key List.mem_cons_self) hinsert
      have hnew' : ∀ other ∈ keys, other ∉ (t.insert key).2.keys := by
        intro other hother hmem
        rcases List.mem_cons.mp (hperm.mem_iff.mp hmem) with rfl | hold
        · exact hkey hother
        · exact hnew other (List.mem_cons_of_mem _ hother) hold
      have hroom' : keys.length ≤ (t.insert key).2.room := by
        rw [h.room_insert]
        omega
      rw [run_insertAll_cons, List.map_cons, ih (h.insert key) hkeys hnew' hroom', hinsert,
        erase_fst_of_locate ((h.insert key).locate_insertAll hkey hlocate)]

end ProbeForest.Table
