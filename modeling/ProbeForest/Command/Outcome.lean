import ProbeForest.Benchmark.Run
import ProbeForest.Decimal.Format
import ProbeForest.Network.Plan
import ProbeForest.Text.Sink

/-!
# Outcomes of commands as text

A secret is one line.  A benchmark has a line for each batch with the mean
time of a key in whole microseconds, and a line of statistics.  A plan is its
cost and the number of groups that pay the fallback.
-/

namespace ProbeForest.Command

open Text (Sink Writing)

/-- What a command gives. -/
inductive Outcome where
  | secret (text : String)
  | probe (report : Benchmark.Report)
  | connect (plan : Network.Plan)

namespace Outcome

/-- How many digits follow the point of a mean. -/
def meanPlaces : Nat := 2

/-- Writes the line of a batch. -/
def writeBatch (t : Benchmark.BatchTiming) : Writing Unit := do
  Sink.put "average time for batch "
  Sink.put (toString t.batch)
  Sink.put " is "
  Sink.put (toString t.perKey.toMicros)
  Sink.put " us\n"

/-- Writes the line of statistics. -/
def writeStats : Option Benchmark.ProbeStats → Writing Unit
  | none => Sink.put "no successful deletions\n"
  | some stats => do
    Sink.put "min: "
    Sink.put (toString stats.least)
    Sink.put " max: "
    Sink.put (toString stats.most)
    Sink.put " average: "
    Sink.put (stats.mean.fixed meanPlaces)
    Sink.put "\n"

/-- Writes an outcome. -/
def write : Outcome → Writing Unit
  | secret text => do
    Sink.put text
    Sink.put "\n"
  | probe report => do
    report.batches.forM writeBatch
    writeStats report.stats
  | connect plan => do
    Sink.put (toString plan.total)
    Sink.put " "
    Sink.put (toString plan.remaining)
    Sink.put "\n"

/-- The bytes that a sink takes of an outcome, and whether it had room for all. -/
def writeTo (room : Option Nat) (o : Outcome) : Except Text.SinkFull Unit × List UInt8 :=
  let (result, sink) := o.write.run (Sink.ofRoom room)
  (result, sink.written.toList)

/-- An outcome as text. -/
def bytes (o : Outcome) : List UInt8 := (o.writeTo none).2

end Outcome

end ProbeForest.Command
