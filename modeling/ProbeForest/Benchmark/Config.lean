import ProbeForest.Table.Basic

/-!
# The settings of a probe benchmark

A benchmark inserts the leading words of a list in batches and then deletes a
range of the same words.  Settings fit a word list when batches are not empty,
the list is long enough, and the range is not empty and lies inside the words
that were inserted; these are checked in this order.
-/

namespace ProbeForest.Benchmark

/-- The settings of a probe benchmark. -/
structure Config where
  /-- The number of slots. -/
  capacity : Table.Capacity
  /-- How many leading words are inserted. -/
  wordCount : Nat
  /-- How many words a batch has. -/
  batchSize : Nat
  /-- The index of the first word to delete. -/
  deleteStart : Nat
  /-- The index of the last word to delete. -/
  deleteEnd : Nat

/-- The settings of the reference run. -/
def Config.reference : Config :=
  { capacity := ⟨24000, by decide⟩
    wordCount := 20000
    batchSize := 500
    deleteStart := 14000
    deleteEnd := 14998 }

/-- Why settings do not fit a word list. -/
inductive ConfigError where
  | zeroBatchSize
  | insufficientWords (required available : Nat)
  | invalidDeleteRange (start stop wordCount : Nat)
deriving DecidableEq, Repr

namespace ConfigError

def message : ConfigError → String
  | zeroBatchSize => "batch_size must be at least 1"
  | insufficientWords required available =>
    s!"benchmark needs {required} words but only {available} were supplied"
  | invalidDeleteRange start stop wordCount =>
    s!"delete range {start}..={stop} is outside the {wordCount} inserted words"

/-- The stable name of the cause. -/
def code : ConfigError → String
  | zeroBatchSize => "BENCHMARK_ZERO_BATCH_SIZE"
  | insufficientWords _ _ => "BENCHMARK_INSUFFICIENT_WORDS"
  | invalidDeleteRange _ _ _ => "BENCHMARK_INVALID_DELETE_RANGE"

end ConfigError

/-- The settings fit a list of `available` words. -/
def Config.check (c : Config) (available : Nat) : Except ConfigError Unit :=
  if c.batchSize = 0 then .error .zeroBatchSize
  else if available < c.wordCount then .error (.insufficientWords c.wordCount available)
  else if c.deleteEnd < c.deleteStart ∨ c.wordCount ≤ c.deleteEnd then
    .error (.invalidDeleteRange c.deleteStart c.deleteEnd c.wordCount)
  else .ok ()

end ProbeForest.Benchmark
