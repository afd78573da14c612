import Mathlib
import ProbeForest.Benchmark.Run

/-!
# Batches

Cutting a list into batches of a positive size takes a batch off its front
until nothing is left.  No item is lost, every batch but the last one has the
full size, and the last one has at least one item.  The number of batches is
the quotient of the lengths, rounded up.

## Main results

* `flatten_batchesOf` — the batches together are the list.
* `length_batchesOf`, `length_of_mem_dropLast_batchesOf`,
  `length_of_mem_batchesOf` — how many there are, and how long they are.
-/

namespace ProbeForest.Benchmark

variable {α : Type} {size : Nat} {items : List α}

/-! ## Cutting step by step -/

/-- With fuel for every item it does not matter how much there is. -/
theorem batchesOf_go_congr (hsize : 0 < size) {fuel fuel' : Nat} (hfuel : items.length ≤ fuel)
    (hfuel' : items.length ≤ fuel') :
    batchesOf.go size fuel items = batchesOf.go size fuel' items := by
  induction fuel generalizing fuel' items with
  | zero =>
      obtain rfl := List.eq_nil_of_length_eq_zero (Nat.le_zero.mp hfuel)
      cases fuel' <;> rfl
  | succ fuel ih =>
      cases items with
      | nil => cases fuel' <;> rfl
      | cons item items =>
          obtain ⟨fuel', rfl⟩ := Nat.exists_eq_add_one_of_ne_zero (Nat.ne_zero_of_lt hfuel')
          rw [List.length_cons] at hfuel hfuel'
          have hrest : ((item :: items).drop size).length ≤ items.length := by
            rw [List.length_drop, List.length_cons]
            omega
          exact congrArg (List.cons _) (ih (by omega) (by omega))

/-- A batch is taken off the front. -/
theorem batchesOf_of_ne_nil (hsize : 0 < size) (hitems : items ≠ []) :
    batchesOf size items = items.take size :: batchesOf size (items.drop size) := by
  cases items with
  | nil => exact absurd rfl hitems
  | cons item items =>
      have hrest : ((item :: items).drop size).length ≤ items.length := by
        rw [List.length_drop, List.length_cons]
        omega
      exact congrArg (List.cons _) (batchesOf_go_congr hsize hrest (Nat.le_refl _))

/-- What holds of no batches, and of one batch more than those of a rest, holds of all batches. -/
theorem batchesOf_induction {motive : List α → List (List α) → Prop} (hsize : 0 < size)
    (nil : motive [] [])
    (step : ∀ items, items ≠ [] → motive (items.drop size) (batchesOf size (items.drop size)) →
      motive items (items.take size :: batchesOf size (items.drop size))) (items : List α) :
    motive items (batchesOf size items) := by
  induction hlength : items.length using Nat.strong_induction_on generalizing items with
  | h length ih =>
      by_cases hitems : items = []
      · rw [hitems]
        exact nil
      · have hpos := List.length_pos_of_ne_nil hitems
        have hless : (items.drop size).length < length := by
          rw [List.length_drop]
          omega
        rw [batchesOf_of_ne_nil hsize hitems]
        exact step items hitems (ih _ hless _ rfl)

/-- Taking one batch off leaves one batch less, also if fewer items than a batch are left. -/
theorem ceilDiv_sub_add_one {n : Nat} (hsize : 0 < size) (hpos : 0 < n) :
    (n - size) ⌈/⌉ size + 1 = n ⌈/⌉ size := by
  rw [Nat.ceilDiv_eq_add_pred_div, Nat.ceilDiv_eq_add_pred_div, ← Nat.add_div_right _ hsize]
  rcases Nat.lt_or_ge n size with hshort | hlong
  · have hzero : n - size = 0 := by omega
    have hlast : n + size - 1 = n - 1 + size := by omega
    rw [hzero, hlast, Nat.add_div_right _ hsize, Nat.add_div_right _ hsize,
      Nat.div_eq_of_lt (by omega), Nat.div_eq_of_lt (by omega)]
  · congr 1
    omega

/-! ## What the batches are -/

section Sizes

variable (hsize : 0 < size)

include hsize

/-- The batches together are the list. -/
theorem flatten_batchesOf (items : List α) : (batchesOf size items).flatten = items := by
  refine batchesOf_induction (motive := fun items batches => batches.flatten = items) hsize rfl
    (fun items _ ih => ?_) items
  rw [List.flatten_cons, ih, List.take_append_drop]

/-- There are as many batches as the size goes into the number of items, rounded up. -/
theorem length_batchesOf (items : List α) :
    (batchesOf size items).length = items.length ⌈/⌉ size := by
  refine batchesOf_induction
    (motive := fun items batches => batches.length = items.length ⌈/⌉ size) hsize
    (zero_ceilDiv size).symm (fun items hitems ih => ?_) items
  rw [List.length_cons, ih, List.length_drop]
  exact ceilDiv_sub_add_one hsize (List.length_pos_of_ne_nil hitems)

/-- Every batch has an item, and none is longer than the size. -/
theorem length_of_mem_batchesOf (items : List α) :
    ∀ batch ∈ batchesOf size items, 1 ≤ batch.length ∧ batch.length ≤ size := by
  refine batchesOf_induction
    (motive := fun _ batches => ∀ batch ∈ batches, 1 ≤ batch.length ∧ batch.length ≤ size) hsize
    (fun _ hnone => nomatch hnone) (fun items hitems ih batch hmem => ?_) items
  have hpos := List.length_pos_of_ne_nil hitems
  rcases List.mem_cons.mp hmem with rfl | hmem
  · rw [List.length_take]
    omega
  · exact ih batch hmem

/-- Every batch but the last one has the full size. -/
theorem length_of_mem_dropLast_batchesOf (items : List α) :
    ∀ batch ∈ (batchesOf size items).dropLast, batch.length = size := by
  refine batchesOf_induction
    (motive := fun _ batches => ∀ batch ∈ batches.dropLast, batch.length = size) hsize
    (fun _ hnone => nomatch hnone) (fun items hitems ih batch hmem => ?_) items
  by_cases hrest : items.drop size = []
  · rw [hrest] at hmem
    cases hmem
  · have hlong : size < items.length := by simpa using hrest
    have hmore : batchesOf size (items.drop size) ≠ [] := by
      rw [batchesOf_of_ne_nil hsize hrest]
      exact List.cons_ne_nil _ _
    rw [List.dropLast_cons_of_ne_nil hmore] at hmem
    rcases List.mem_cons.mp hmem with rfl | hmem
    · rw [List.length_take]
      omega
    · exact ih batch hmem

end Sizes

end ProbeForest.Benchmark
