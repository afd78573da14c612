import ProbeForest.Proofs.Table.Staying

/-!
# Operations in closed form

A walk steps from slot to slot, wraps at the last one, and counts beside that.
What it comes to can be said without any stepping: of the slots that would end
it, the one that is the least number of steps away from the home slot, modulo
the number of slots.  Each operation has its own kind of slot.  An insertion
ends at a free one, a search at an empty one or at a copy of the key.

`Nearest` says "the least number of steps" as the least element of a set of
numbers, and speaks of the slots of the table only.  With it every answer, and
every change of the table, is written down without a walk.

## Main results

* `nearest_iff_stopsFirst` — the least number of steps is the one after which a
  walk stops.
* `Nearest.meets`, `Nearest.misses`, `misses_of_forall_not_nearest` — the three
  ways in which a search ends.
* `WellFormed.closedForm` — the operations on a well-formed table.
* `after_closedForm` — the same, said of tables that calls have made.
-/

namespace ProbeForest.Table

variable {t : Table} {key : String} {stops : Slot → Bool} {what : Slot → Prop} {steps : Nat}

/-! ## The nearest slot of a kind -/

/-- The least number of steps, fewer than a lap has, that lead from the home slot of a key to a
slot of a given kind. -/
def Nearest (t : Table) (key : String) (what : Slot → Prop) (steps : Nat) : Prop :=
  IsLeast {steps | steps < t.capacity ∧
    ∃ slot, t.slot? (place key t.capacity steps) = some slot ∧ what slot} steps

/-- An insertion may take the slot. -/
def Slot.Free (slot : Slot) : Prop := slot = .empty ∨ slot = .tombstone

/-- A search for the key need not go on. -/
def Slot.Ends (key : String) (slot : Slot) : Prop := slot = .empty ∨ slot = .occupied key

theorem Slot.isFree_iff {slot : Slot} : slot.isFree = true ↔ slot.Free := by
  cases slot <;> simp [Slot.isFree, Slot.Free]

/-- The least number of steps is the one after which a walk stops. -/
theorem nearest_iff_stopsFirst (hwhat : ∀ slot, stops slot = true ↔ what slot) :
    t.Nearest key what steps ↔ t.StopsFirst key stops steps := by
  have hkind : ∀ offset < t.capacity,
      ((∃ slot, t.slot? (place key t.capacity offset) = some slot ∧ what slot) ↔
        stops (t.along key offset) = true) := by
    intro offset hlt
    simp [slot?_place hlt, hwhat]
  constructor
  · intro h
    obtain ⟨⟨hlt, hhere⟩, hleast⟩ := h
    refine ⟨hlt, (hkind steps hlt).mp hhere, ?_⟩
    intro earlier hearlier
    by_contra hstops
    have hlt' : earlier < t.capacity := by omega
    have hle := hleast ⟨hlt', (hkind earlier hlt').mpr (by simpa using hstops)⟩
    omega
  · intro h
    refine ⟨⟨h.lt, (hkind steps h.lt).mpr h.passes⟩, ?_⟩
    intro other hother
    obtain ⟨hlt, hhere⟩ := hother
    by_contra hbefore
    have hfalse := h.before other (by omega)
    rw [(hkind other hlt).mp hhere] at hfalse
    cases hfalse

/-! ## The ends of a search -/

theorem nearest_ends_iff :
    t.Nearest key (Slot.Ends key) steps ↔ t.StopsFirst key (Slot.endsSearch key) steps :=
  nearest_iff_stopsFirst fun _ => endsSearch_iff

/-- The nearest slot that ends the search holds the key. -/
theorem Nearest.meets (h : t.Nearest key (Slot.Ends key) steps)
    (hslot : t.slot? (place key t.capacity steps) = some (.occupied key)) :
    t.Meets key steps := by
  have hstop := nearest_ends_iff.mp h
  rw [slot?_place hstop.lt] at hslot
  exact ⟨hstop, Option.some.inj hslot⟩

/-- The nearest slot that ends the search is empty. -/
theorem Nearest.misses (h : t.Nearest key (Slot.Ends key) steps)
    (hslot : t.slot? (place key t.capacity steps) = some .empty) : t.Misses key steps := by
  have hstop := nearest_ends_iff.mp h
  rw [slot?_place hstop.lt] at hslot
  exact ⟨Nat.le_of_lt hstop.lt, hstop.before, fun _ => Option.some.inj hslot⟩

/-- No slot ends the search, so that it goes over the whole lap. -/
theorem misses_of_forall_not_nearest (h : ∀ steps, ¬ t.Nearest key (Slot.Ends key) steps) :
    t.Misses key t.capacity := by
  refine ⟨Nat.le_refl _, ?_, fun hlt => absurd hlt (Nat.lt_irrefl _)⟩
  intro earlier hearlier
  by_contra hends
  obtain ⟨first, _, hfirst⟩ := exists_stopsFirst hearlier (by simpa using hends)
  exact h first (nearest_ends_iff.mpr hfirst)

theorem Misses.find?_eq {probes : Nat} (h : t.Misses key probes) : t.find? key = none := by
  rw [find?, h.locate_eq]
  rfl

/-! ## All operations -/

/-- What the operations on a table answer for a key, and what they change, told from its slots. -/
structure ClosedForm (t : Table) (key : String) : Prop where
  /-- While there is room, an insertion takes the nearest free slot, and writes only there. -/
  insert_room : t.size < t.capacity → ∃ steps, t.Nearest key Slot.Free steps ∧
    (t.insert key).1 = .ok ⟨place key t.capacity steps, steps⟩ ∧
    Written t (t.insert key).2 (place key t.capacity steps) (.occupied key)
  /-- Without room it fails, and the table stays the same. -/
  insert_full : ¬ t.size < t.capacity → t.insert key = (.error (.full t.capacity), t)
  /-- If the nearest slot that ends a search holds the key, then the key is found there, and a
  deletion turns that slot into a tombstone and no other. -/
  found : ∀ steps, t.Nearest key (Slot.Ends key) steps →
    t.slot? (place key t.capacity steps) = some (.occupied key) →
    t.find? key = some ⟨place key t.capacity steps, steps⟩ ∧
    (t.erase key).1 = .ok ⟨place key t.capacity steps, steps⟩ ∧
    Written t (t.erase key).2 (place key t.capacity steps) .tombstone
  /-- If it is empty, then the key is missed after the steps to it, and the table stays the same. -/
  missed : ∀ steps, t.Nearest key (Slot.Ends key) steps →
    t.slot? (place key t.capacity steps) = some .empty →
    t.find? key = none ∧ t.erase key = (.error (.notFound key steps), t)
  /-- If there is none, then the key is missed after a lap, and the table stays the same. -/
  missed_lap : (∀ steps, ¬ t.Nearest key (Slot.Ends key) steps) →
    t.find? key = none ∧ t.erase key = (.error (.notFound key t.capacity), t)

theorem WellFormed.closedForm (h : t.WellFormed) (key : String) : t.ClosedForm key where
  insert_room hroom := by
    obtain ⟨steps, hfirst⟩ := h.exists_stopsFirst_free hroom key
    have hinsert := insert_of_stopsFirst (Nat.ne_of_lt hroom) hfirst
    refine ⟨steps, (nearest_iff_stopsFirst fun _ => Slot.isFree_iff).mpr hfirst, ?_, ?_⟩
    · rw [hinsert, probeAt]
    · rw [hinsert]
      exact hfirst.written_occupy
  insert_full hfull := by
    have hle := h.size_le
    exact insert_of_full (by omega) key
  found steps hnearest hslot := by
    have hmeets := hnearest.meets hslot
    refine ⟨find?_eq_of_locate hmeets.locate_eq, ?_, ?_⟩
    · rw [erase_of_meets hmeets, probeAt]
    · rw [erase_of_meets hmeets]
      exact hmeets.written_bury
  missed steps hnearest hslot := by
    have hmisses := hnearest.misses hslot
    exact ⟨hmisses.find?_eq, erase_of_misses hmisses⟩
  missed_lap hnone := by
    have hmisses := misses_of_forall_not_nearest hnone
    exact ⟨hmisses.find?_eq, erase_of_misses hmisses⟩

/-- On every table that calls can make, a walk comes to the nearest slot that ends it, and its
operation writes that slot alone, or fails and writes nothing. -/
theorem after_closedForm (capacity : Capacity) (script : List Call) (key : String) :
    (after capacity script).ClosedForm key :=
  (after_represents capacity script).1.wellFormed.closedForm key

end ProbeForest.Table
