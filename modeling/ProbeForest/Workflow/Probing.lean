import ProbeForest.Journal.Basic
import ProbeForest.Table.Basic

/-!
# Measuring a probe table

Every operation that changes a table counts once, and its probe count is one
observation; an operation that is refused leaves no trace.
-/

namespace ProbeForest.Workflow

open Journal (meter)
open Table (Probe TableError)

/-- The two operations that change a table. -/
inductive Change where
  | insertion
  | deletion
deriving DecidableEq, Repr

namespace Change

def label : Change → String
  | insertion => "insert"
  | deletion => "delete"

def counter : Change → String
  | insertion => "probe_table_inserts"
  | deletion => "probe_table_deletes"

/-- Takes the measurements of an operation. -/
def measureAnswer (change : Change) (answer : Except TableError Probe) : Recording Unit := do
  if let .ok probe := answer then
    meter change.counter [] (.count 1)
    meter "probe_table_probe_length" [("op", change.label)]
      (.observe (Decimal.Binary64.ofNat probe.probes))

/-- Takes the measurements of operations, in order. -/
def measureAnswers (change : Change) (answers : List (Except TableError Probe)) :
    Recording Unit :=
  answers.forM change.measureAnswer

end Change

end ProbeForest.Workflow
