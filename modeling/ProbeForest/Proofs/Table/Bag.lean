import ProbeForest.Proofs.Table.WellFormed

/-!
# A table is a bag with room for as many keys as it has slots

The order of the slots, the tombstones and the collisions of keys do not show
in what a table answers, probe counts apart.  A script is any sequence of
calls on a table that was empty at first.  The same script is played on a bag,
a multiset of keys, which takes a key as long as it has fewer keys than the
table has slots, and gives back one copy of a key that it has.  After every
script the table answers as the bag does.

## Main results

* `Represents.leaves` — the step lemma: a call takes a table that represents a
  bag to one that represents what the call makes of the bag.
* `after_represents` — the run lemma, for scripts.
* `script_answers_bag` — the same, said of the answers to calls.
-/

namespace ProbeForest.Table

variable {t : Table} {bag : Multiset String} {key : String}

/-! ## Scripts -/

/-- A call of the operations of a table. -/
inductive Call where
  | insert (key : String)
  | erase (key : String)
  | find (key : String)
  | contains (key : String)
  | keys
deriving DecidableEq, Repr

namespace Call

/-- The table that a call leaves.  Searches and listings only read. -/
def leaves : Call → Table → Table
  | insert key, t => (t.insert key).2
  | erase key, t => (t.erase key).2
  | find _, t | contains _, t | keys, t => t

/-- What a call makes of a bag with room for `capacity` keys. -/
def leavesBag (capacity : Nat) : Call → Multiset String → Multiset String
  | insert key, bag => if bag.card < capacity then key ::ₘ bag else bag
  | erase key, bag => if key ∈ bag then bag.erase key else bag
  | find _, bag | contains _, bag | keys, bag => bag

end Call

/-- The table after a script of calls that starts without keys. -/
def after (capacity : Capacity) (script : List Call) : Table :=
  script.foldl (fun t call => call.leaves t) (ofCapacity capacity)

/-- The bag after a script of calls that starts without keys. -/
def bagAfter (capacity : Capacity) (script : List Call) : Multiset String :=
  script.foldl (fun bag call => call.leavesBag capacity.slots bag) 0

theorem after_snoc (capacity : Capacity) (script : List Call) (call : Call) :
    after capacity (script ++ [call]) = call.leaves (after capacity script) := by
  simp [after]

theorem bagAfter_snoc (capacity : Capacity) (script : List Call) (call : Call) :
    bagAfter capacity (script ++ [call]) =
      call.leavesBag capacity.slots (bagAfter capacity script) := by
  simp [bagAfter]

/-! ## Steps and runs -/

/-- A well-formed table that holds exactly the keys of a bag. -/
structure Represents (t : Table) (bag : Multiset String) : Prop where
  wellFormed : t.WellFormed
  keys : (t.keys : Multiset String) = bag

namespace Represents

theorem size_eq (h : t.Represents bag) : t.size = bag.card := by
  rw [← h.keys, Multiset.coe_card, h.wellFormed.size_eq]

theorem mem_iff (h : t.Represents bag) : key ∈ t.keys ↔ key ∈ bag := by
  rw [← h.keys, Multiset.mem_coe]

theorem insert (h : t.Represents bag) (key : String) :
    (t.insert key).2.Represents ((Call.insert key).leavesBag t.capacity bag) := by
  refine ⟨h.wellFormed.insert key, ?_⟩
  have hsize := h.size_eq
  rw [Call.leavesBag]
  rcases h.wellFormed.insert_cases key with ⟨hroom, offset, hfirst, heq⟩ | ⟨hfull, heq⟩
  · rw [heq, if_pos (by omega), ← h.keys, Multiset.cons_coe, Multiset.coe_eq_coe]
    exact hfirst.keys_occupy
  · rw [heq, if_neg (by omega), h.keys]

theorem erase (h : t.Represents bag) (key : String) :
    (t.erase key).2.Represents ((Call.erase key).leavesBag t.capacity bag) := by
  refine ⟨h.wellFormed.erase key, ?_⟩
  rw [Call.leavesBag]
  rcases h.wellFormed.erase_cases key with ⟨hmem, offset, hmeets, heq⟩ | ⟨hmem, probes, _, heq⟩
  · have hkeys := Multiset.coe_eq_coe.mpr hmeets.keys_bury
    rw [heq, if_pos (h.mem_iff.mp hmem), ← h.keys, ← hkeys, ← Multiset.cons_coe,
      Multiset.erase_cons_head]
  · rw [heq, if_neg (h.mem_iff.not.mp hmem), h.keys]

/-- A call on the table does what it does to the bag. -/
theorem leaves (h : t.Represents bag) (call : Call) :
    (call.leaves t).Represents (call.leavesBag t.capacity bag) := by
  cases call with
  | insert key => exact h.insert key
  | erase key => exact h.erase key
  | find key => exact h
  | contains key => exact h
  | keys => exact h

theorem capacity_leaves (h : t.Represents bag) (call : Call) :
    (call.leaves t).capacity = t.capacity := by
  cases call with
  | insert key => exact h.wellFormed.capacity_insert key
  | erase key => exact h.wellFormed.capacity_erase key
  | find key => rfl
  | contains key => rfl
  | keys => rfl

end Represents

theorem capacity_ofCapacity (capacity : Capacity) :
    (ofCapacity capacity).capacity = capacity.slots :=
  Array.size_replicate

theorem represents_ofCapacity (capacity : Capacity) : (ofCapacity capacity).Represents 0 := by
  refine ⟨wellFormed_ofCapacity capacity, ?_⟩
  rw [keys_ofCapacity]
  rfl

/-- After every script the table represents the bag of the script. -/
theorem after_represents (capacity : Capacity) (script : List Call) :
    (after capacity script).Represents (bagAfter capacity script) ∧
      (after capacity script).capacity = capacity.slots := by
  induction script using List.reverseRecOn with
  | nil => exact ⟨represents_ofCapacity capacity, capacity_ofCapacity capacity⟩
  | append_singleton script call ih =>
      obtain ⟨h, hcapacity⟩ := ih
      have hstep := h.leaves call
      rw [hcapacity] at hstep
      rw [after_snoc, bagAfter_snoc]
      exact ⟨hstep, (h.capacity_leaves call).trans hcapacity⟩

/-! ## Answers by a bag -/

/-- A table that answers every call as a bag with room for `capacity` keys does. -/
structure AnswersBy (capacity : Nat) (bag : Multiset String) (t : Table) : Prop where
  /-- An insertion succeeds while the bag has room. -/
  insert_ok : ∀ key, bag.card < capacity → ∃ probe, (t.insert key).1 = .ok probe
  /-- Without room an insertion fails, and names the capacity. -/
  insert_full : ∀ key, ¬ bag.card < capacity → (t.insert key).1 = .error (.full capacity)
  /-- A deletion succeeds if the key is in the bag. -/
  erase_ok : ∀ key ∈ bag, ∃ probe, (t.erase key).1 = .ok probe
  /-- If it is not, the deletion fails and names the key. -/
  erase_notFound : ∀ key, key ∉ bag → ∃ probes, (t.erase key).1 = .error (.notFound key probes)
  /-- A search finds the keys of the bag. -/
  find : ∀ key, (t.find? key).isSome = true ↔ key ∈ bag
  /-- So does a membership test. -/
  contains : ∀ key, t.contains key = true ↔ key ∈ bag
  /-- The listing has every key as often as the bag. -/
  keys : (t.keys : Multiset String) = bag
  /-- The size is that of the bag. -/
  size : t.size = bag.card

/-- A table answers by the bag that it represents. -/
theorem Represents.answersBy (h : t.Represents bag) : AnswersBy t.capacity bag t where
  insert_ok key hroom := by
    rw [← h.size_eq] at hroom
    exact h.wellFormed.insert_ok hroom key
  insert_full key hfull := by
    have hsize := h.size_eq
    rcases h.wellFormed.insert_cases key with ⟨hroom, _⟩ | ⟨_, heq⟩
    · omega
    · rw [heq]
  erase_ok key hmem := by
    obtain ⟨offset, hmeets⟩ := h.wellFormed.exists_meets (h.mem_iff.mpr hmem)
    exact ⟨t.probeAt key offset, by rw [erase_of_meets hmeets]⟩
  erase_notFound key hmem := by
    rcases h.wellFormed.erase_cases key with ⟨hin, _⟩ | ⟨_, probes, _, heq⟩
    · exact absurd (h.mem_iff.mp hin) hmem
    · exact ⟨probes, by rw [heq]⟩
  find key := by
    rw [← h.mem_iff, h.wellFormed.isSome_find?]
  contains key := by
    rw [contains, ← h.mem_iff, h.wellFormed.isSome_find?]
  keys := h.keys
  size := h.size_eq

/-- After any script of calls, with any keys, a table answers every next call as the bag does on
which the same script was played. -/
theorem script_answers_bag (capacity : Capacity) (script : List Call) :
    AnswersBy capacity.slots (bagAfter capacity script) (after capacity script) := by
  obtain ⟨h, hcapacity⟩ := after_represents capacity script
  have hanswers := h.answersBy
  rwa [hcapacity] at hanswers

end ProbeForest.Table
