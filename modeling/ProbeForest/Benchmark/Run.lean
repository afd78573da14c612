import ProbeForest.Benchmark.Config
import ProbeForest.Benchmark.Duration

/-!
# Benchmark runs and their reports

A run keeps what every single insertion and deletion answered, and the table
that is left.  The report condenses it: the time each batch took, how many
insertions were refused, how many deletions missed, and statistics of the
probe counts of the deletions that did not.  Times are measured outside and
handed in, so that a run is determined by its settings and its words.
-/

namespace ProbeForest.Benchmark

open Table (Probe TableError)

/-- Splits a list into batches of `size` items; the last one may be shorter. -/
def batchesOf (size : Nat) (items : List α) : List (List α) :=
  go items.length items
where
  go : (fuel : Nat) → List α → List (List α)
    | 0, _ => []
    | _, [] => []
    | fuel + 1, rest => rest.take size :: go fuel (rest.drop size)

/-- What each operation of a run answered, and the table it left. -/
structure Run where
  /-- The answers of the insertions, batch by batch. -/
  batches : List (List (Except TableError Probe))
  /-- The answers of the deletions. -/
  deletions : List (Except TableError Probe)
  table : Table

namespace Config

/-- The words to insert, batch by batch. -/
def batches (c : Config) (words : List String) : List (List String) :=
  batchesOf c.batchSize (words.take c.wordCount)

/-- The words to delete. -/
def deleted (c : Config) (words : List String) : List String :=
  (words.take (c.deleteEnd + 1)).drop c.deleteStart

/-- Runs the benchmark on words that the settings fit. -/
def execute (c : Config) (words : List String) : Run :=
  let (batches, table) :=
    ((c.batches words).mapM Table.insertAll).run (Table.ofCapacity c.capacity)
  let (deletions, table) := (Table.eraseAll (c.deleted words)).run table
  ⟨batches, deletions, table⟩

end Config

/-- The time that a batch took. -/
structure BatchTiming where
  /-- The number of the batch; the first one is one. -/
  batch : Nat
  /-- How many keys were tried. -/
  keys : Nat
  elapsed : Duration
deriving DecidableEq, Repr

/-- The mean time of a key.  A batch without keys counts as one key, and no
more than `2 ^ 32 - 1` keys are counted. -/
def BatchTiming.perKey (t : BatchTiming) : Duration :=
  t.elapsed.div (max 1 (min t.keys (Nat.pow 2 32 - 1)))

/-- Statistics of the probe counts of successful deletions. -/
structure ProbeStats where
  least : Nat
  most : Nat
  mean : Decimal.Binary64
  deletions : Nat
deriving DecidableEq, Repr

/-- The statistics of a list of probe counts; an empty list has none. -/
def ProbeStats.ofCounts? : List Nat → Option ProbeStats
  | [] => none
  | first :: others =>
    let counts := first :: others
    some
      { least := others.foldl min first
        most := counts.foldl max 0
        mean := Decimal.Binary64.ofRatio (counts.foldl (· + ·) 0) counts.length
        deletions := counts.length }

/-- What a benchmark reports. -/
structure Report where
  batches : List BatchTiming
  /-- How many insertions a full table refused. -/
  rejected : Nat
  /-- Statistics of the successful deletions, if there were any. -/
  stats : Option ProbeStats
  /-- How many deletions did not find their key. -/
  missed : Nat
deriving DecidableEq, Repr

/-- The probes of the operations that succeeded. -/
def successes (answers : List (Except TableError Probe)) : List Probe :=
  answers.filterMap Except.toOption

namespace Run

/-- The operations of a list that were refused. -/
def refusals (answers : List (Except TableError Probe)) : Nat :=
  answers.length - (successes answers).length

/-- The timings of the batches, numbered from one. -/
def timings (r : Run) (elapsed : Nat → Duration) : List BatchTiming :=
  r.batches.zipIdx.map fun (answers, index) => ⟨index + 1, answers.length, elapsed (index + 1)⟩

/-- The report of a run, given the time that each batch took. -/
def report (r : Run) (elapsed : Nat → Duration) : Report :=
  { batches := r.timings elapsed
    rejected := (r.batches.map refusals).foldl (· + ·) 0
    stats := ProbeStats.ofCounts? ((successes r.deletions).map (·.probes))
    missed := refusals r.deletions }

end Run

/-- Runs the benchmark and reports it, if the settings fit the words. -/
def report (c : Config) (words : List String) (elapsed : Nat → Duration) :
    Except ConfigError Report := do
  c.check words.length
  return (c.execute words).report elapsed

end ProbeForest.Benchmark
