import ProbeForest.Benchmark.Run
import ProbeForest.Workflow.Described
import ProbeForest.Workflow.Probing

/-!
# A probe benchmark under watch

Every operation is measured and every batch is an event with the time it took.
A warning tells when the table refused insertions, and a last event sums the
run up.
-/

namespace ProbeForest.Workflow

open Benchmark (Config ConfigError Duration Report Run)
open Journal (emit span)

/-- The target of diagnostics about benchmarks. -/
def benchmarkTarget : String := "katsuo_core::benchmark"

/-- The name of the field that carries a measured time. -/
def elapsedField : String := "elapsed_us"

/-- Writes the journal of the insertions of a run. -/
def insertions (run : Run) (elapsed : Nat → Duration) : Recording Unit :=
  for (answers, index) in run.batches.zipIdx do
    Change.insertion.measureAnswers answers
    emit .debug benchmarkTarget "batch inserted"
      [("batch", .natural (index + 1)), (elapsedField, .wide (elapsed (index + 1)).toMicros)]

/-- Writes the journal of a run and its report. -/
def account (run : Run) (elapsed : Nat → Duration) : Recording Report := do
  let report := run.report elapsed
  insertions run elapsed
  if 0 < report.rejected then
    emit .warn benchmarkTarget "table filled before all words were inserted"
      [("rejected_inserts", .natural report.rejected)]
  Change.deletion.measureAnswers run.deletions
  emit .info benchmarkTarget "probe benchmark completed"
    [("batches", .natural report.batches.length), ("load_factor", .real run.table.load),
      ("missed_deletions", .natural report.missed)]
  return report

/-- Runs the benchmark, if the settings fit the words. -/
def benchmark (config : Config) (words : List String) (elapsed : Nat → Duration) :
    FallibleRecording ConfigError Report :=
  span
    { name := "benchmark.probe"
      target := benchmarkTarget
      fields :=
        [("capacity", some (.natural config.capacity.slots)),
          ("word_count", some (.natural config.wordCount)),
          ("batch_size", some (.natural config.batchSize))] }
    do
      config.check words.length
      account (config.execute words) elapsed

end ProbeForest.Workflow
