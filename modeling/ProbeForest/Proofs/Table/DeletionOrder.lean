import ProbeForest.Proofs.Table.Displacement

/-!
# The order of deletions

A deletion leaves a tombstone where its key was, and the searches for other
keys go past a tombstone as they went past the key.  So a series of deletions
falls apart into one series for each key, none of which notices the others: a
key is deleted as often, from the same slots, after the same numbers of steps,
as if no other key had been asked for.  Which copy goes first depends on the
key alone, since a search meets the nearest copy.

In another order of the series each key keeps its share.  That the table ends
the same, slot by slot, follows from two neighbours changing places.

## Main results

* `WellFormed.erase_comm` — two deletions leave the same table in either order.
* `WellFormed.answersTo_eraseAll` — the deletions of a key answer as they would
  without the others.
* `WellFormed.eraseAll_snd_of_perm` — the table after many deletions does not
  depend on their order.
* `eraseAlike_of_perm` — both, said of tables that calls have made.
-/

namespace ProbeForest.Table

variable {t : Table} {key other : String} {keys keys' : List String}

/-! ## Two deletions -/

/-- The table after what a search has found, if anything, was deleted. -/
def buryFound (t : Table) : Except Nat Probe → Table
  | .ok probe => t.bury probe.slot
  | .error _ => t

theorem erase_snd (t : Table) (key : String) : (t.erase key).2 = t.buryFound (t.locate key) := by
  unfold Table.erase
  cases t.locate key <;> rfl

/-- Two slots can be buried in either order. -/
theorem bury_comm (t : Table) (index index' : Nat) :
    (t.bury index).bury index' = (t.bury index').bury index := by
  by_cases heq : index = index'
  · rw [heq]
  · have hslots : ((t.bury index).bury index').slots = ((t.bury index').bury index).slots :=
      Array.setIfInBounds_comm _ _ heq
    exact congrArg (fun slots => Table.mk slots (t.size - 1 - 1) (t.tombstones + 1 + 1)) hslots

theorem buryFound_comm (t : Table) (found found' : Except Nat Probe) :
    (t.buryFound found).buryFound found' = (t.buryFound found').buryFound found := by
  cases found with
  | error _ => rfl
  | ok probe =>
      cases found' with
      | error _ => rfl
      | ok probe' => exact bury_comm t probe.slot probe'.slot

/-- Two deletions leave the same table in either order. -/
theorem WellFormed.erase_comm (h : t.WellFormed) (key other : String) :
    ((t.erase key).2.erase other).2 = ((t.erase other).2.erase key).2 := by
  by_cases hne : key = other
  · rw [hne]
  · have hother : (t.erase key).2.locate other = t.locate other := h.locate_erase_of_ne hne
    have hkey : (t.erase other).2.locate key = t.locate key :=
      h.locate_erase_of_ne (Ne.symm hne)
    calc ((t.erase key).2.erase other).2
        = (t.buryFound (t.locate key)).buryFound (t.locate other) := by
          rw [erase_snd, hother, erase_snd]
      _ = (t.buryFound (t.locate other)).buryFound (t.locate key) := buryFound_comm t _ _
      _ = ((t.erase other).2.erase key).2 := by
          rw [erase_snd (t.erase other).2, hkey, erase_snd]

/-! ## The deletions of one key -/

/-- A deletion of another key does not show in the answers to a series of deletions. -/
theorem WellFormed.eraseAll_fst_of_not_mem (h : t.WellFormed) (hother : other ∉ keys) :
    ((eraseAll keys).run (t.erase other).2).1 = ((eraseAll keys).run t).1 := by
  induction keys generalizing t with
  | nil => rfl
  | cons key keys ih =>
      obtain ⟨hne, hkeys⟩ := List.ne_and_not_mem_of_not_mem_cons hother
      have hrest : ((eraseAll keys).run ((t.erase other).2.erase key).2).1 =
          ((eraseAll keys).run (t.erase key).2).1 := by
        rw [h.erase_comm other key, ih (h.erase key) hkeys]
      rw [run_eraseAll_cons, run_eraseAll_cons, h.erase_fst_of_ne hne, hrest]

/-- The answers to the deletions of one key, in their order. -/
def answersTo (key : String) (keys : List String) (answers : List (Except TableError Probe)) :
    List (Except TableError Probe) :=
  ((keys.zip answers).filter fun (deleted, _) => deleted = key).map Prod.snd

theorem answersTo_cons_self (key : String) (keys : List String)
    (answer : Except TableError Probe) (answers : List (Except TableError Probe)) :
    answersTo key (key :: keys) (answer :: answers) = answer :: answersTo key keys answers := by
  simp [answersTo]

theorem answersTo_cons_of_ne (hne : other ≠ key) (keys : List String)
    (answer : Except TableError Probe) (answers : List (Except TableError Probe)) :
    answersTo key (other :: keys) (answer :: answers) = answersTo key keys answers := by
  simp [answersTo, hne]

/-- The deletions of a key answer as they would without the deletions of other keys. -/
theorem WellFormed.answersTo_eraseAll (h : t.WellFormed) (key : String) (keys : List String) :
    answersTo key keys ((eraseAll keys).run t).1 =
      ((eraseAll (List.replicate (keys.count key) key)).run t).1 := by
  induction keys generalizing t with
  | nil => rfl
  | cons deleted keys ih =>
      rw [run_eraseAll_cons]
      by_cases hkey : deleted = key
      · subst hkey
        rw [answersTo_cons_self, List.count_cons_self, List.replicate_succ, run_eraseAll_cons,
          ih (h.erase deleted)]
      · have hothers : deleted ∉ List.replicate (keys.count key) key := by
          intro hmem
          exact hkey (List.eq_of_mem_replicate hmem)
        rw [answersTo_cons_of_ne hkey, List.count_cons_of_ne hkey, ih (h.erase deleted),
          h.eraseAll_fst_of_not_mem hothers]

/-! ## Many deletions -/

/-- The table after many deletions does not depend on their order. -/
theorem WellFormed.eraseAll_snd_of_perm (h : t.WellFormed) (hperm : keys.Perm keys') :
    ((eraseAll keys).run t).2 = ((eraseAll keys').run t).2 := by
  induction hperm generalizing t with
  | nil => rfl
  | cons key _ ih =>
      rw [run_eraseAll_cons, run_eraseAll_cons]
      exact ih (h.erase key)
  | swap other key keys => simp only [run_eraseAll_cons, h.erase_comm other key]
  | trans _ _ ih ih' => exact (ih h).trans (ih' h)

/-- Two lists of keys the deletions of which cannot be told apart. -/
structure EraseAlike (t : Table) (keys keys' : List String) : Prop where
  /-- They leave the same table, slots and counts. -/
  table : ((eraseAll keys).run t).2 = ((eraseAll keys').run t).2
  /-- Each deletion of a key has the answer of the deletion of that key which is as far along
  among them, with the slot and the number of steps. -/
  answers : ∀ key, answersTo key keys ((eraseAll keys).run t).1 =
    answersTo key keys' ((eraseAll keys').run t).1

/-- The order in which keys are deleted from a table that calls have made does not matter. -/
theorem eraseAlike_of_perm (capacity : Capacity) (script : List Call) (keys keys' : List String)
    (hperm : keys.Perm keys') : EraseAlike (after capacity script) keys keys' := by
  have h := (after_represents capacity script).1.wellFormed
  refine ⟨h.eraseAll_snd_of_perm hperm, ?_⟩
  intro key
  rw [h.answersTo_eraseAll, h.answersTo_eraseAll, hperm.count_eq]

/-- Calls that store two copies of one key and two further keys along one walk. -/
def copies : List Call :=
  [.insert "tuna", .insert "tunas", .insert "tuna", .insert "tuna!"]

/-- Both copies of a key are deleted, nearest first, and a third is missed, whatever is deleted in
between. -/
theorem eraseAlike_of_perm_copies :
    ["tuna", "tuna!", "eel", "tuna", "tuna", "tunas"].Perm
        ["tuna!", "tunas", "tuna", "tuna", "eel", "tuna"] ∧
      answersTo "tuna" ["tuna", "tuna!", "eel", "tuna", "tuna", "tunas"]
        ((eraseAll ["tuna", "tuna!", "eel", "tuna", "tuna", "tunas"]).run
          (after ⟨7, by decide⟩ copies)).1 =
        [.ok ⟨5, 0⟩, .ok ⟨0, 2⟩, .error (.notFound "tuna" 4)] ∧
      EraseAlike (after ⟨7, by decide⟩ copies)
        ["tuna", "tuna!", "eel", "tuna", "tuna", "tunas"]
        ["tuna!", "tunas", "tuna", "tuna", "eel", "tuna"] := by
  have hperm : ["tuna", "tuna!", "eel", "tuna", "tuna", "tunas"].Perm
      ["tuna!", "tunas", "tuna", "tuna", "eel", "tuna"] := by decide
  exact ⟨hperm, by decide +kernel, eraseAlike_of_perm ⟨7, by decide⟩ copies _ _ hperm⟩

end ProbeForest.Table
