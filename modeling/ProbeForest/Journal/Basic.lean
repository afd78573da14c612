import ProbeForest.Journal.Value

/-!
# A journal of diagnostics

A workflow that is watched writes a journal: spans that open and close around
its parts, events inside them, and measurements for metrics.  Journals are
plain data; recorders and log lines are views of them.  An event and a late
field belong to the innermost span that is open.

`span` wraps a computation that may fail.  A failure is reported as an event
inside the span, before the span closes.
-/

namespace ProbeForest.Journal

/-- How much a diagnostic matters, the most urgent level first. -/
inductive Level where
  | error
  | warn
  | info
  | debug
  | trace
deriving DecidableEq, Repr

namespace Level

/-- How far a reader has to turn up the verbosity to see the level. -/
def verbosity : Level → Nat
  | error => 1
  | warn => 2
  | info => 3
  | debug => 4
  | trace => 5

def name : Level → String
  | error => "ERROR"
  | warn => "WARN"
  | info => "INFO"
  | debug => "DEBUG"
  | trace => "TRACE"

end Level

/-- A span as it is opened. -/
structure SpanStart where
  name : String
  target : String
  fields : Declared
deriving DecidableEq, Repr

/-- Something that happened. -/
structure Event where
  level : Level
  target : String
  message : Option String
  fields : Declared
deriving DecidableEq, Repr

/-- What a metric measures: occurrences, or the distribution of a quantity. -/
inductive Measure where
  | count (increment : Nat)
  | observe (value : Decimal.Binary64)
deriving DecidableEq, Repr

/-- A measurement for a metric. -/
structure Metric where
  name : String
  labels : List (String × String)
  measure : Measure
deriving DecidableEq, Repr

/-- One line of a journal. -/
inductive Entry where
  | opened (span : SpanStart)
  /-- Fields added to the innermost open span. -/
  | noted (fields : Fields)
  /-- The innermost open span closed. -/
  | closed
  | event (event : Event)
  | metric (metric : Metric)
deriving DecidableEq, Repr

end Journal

/-- A journal, in the order in which it was written. -/
abbrev Journal := Array Journal.Entry

/-- A computation that writes a journal. -/
abbrev Recording := StateM Journal

/-- A computation that writes a journal and may fail. -/
abbrev FallibleRecording (ε : Type) := ExceptT ε Recording

namespace Journal

/-- Causes of failure that a journal can describe. -/
class Described (ε : Type) where
  message : ε → String

/-- Writes one line. -/
def write (entry : Entry) : Recording Unit := modify (·.push entry)

/-- Gives fields of the innermost open span their values. -/
def note (fields : Fields) : Recording Unit := write (.noted fields)

/-- Reports that something happened. -/
def emit (level : Level) (target message : String) (fields : Fields) : Recording Unit :=
  write (.event ⟨level, target, some message, fields.declared⟩)

/-- Takes a measurement. -/
def meter (name : String) (labels : List (String × String)) (measure : Measure) :
    Recording Unit :=
  write (.metric ⟨name, labels, measure⟩)

/-- Reports a failure. -/
def reportFailure [Described ε] (target : String) (cause : ε) : Recording Unit :=
  write (.event ⟨.error, target, none, [("error", some (.shown (Described.message cause)))]⟩)

/-- Runs a computation inside a span. -/
def span [Described ε] (start : SpanStart) (body : FallibleRecording ε α) :
    FallibleRecording ε α := ExceptT.mk do
  write (.opened start)
  let result ← body.run
  if let .error cause := result then reportFailure start.target cause
  write .closed
  return result

/-- Runs a computation, and returns its journal with its result. -/
def collect (body : Recording α) : α × Journal := body.run #[]

end Journal

end ProbeForest
