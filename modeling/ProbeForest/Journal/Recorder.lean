import ProbeForest.Journal.Basic

/-!
# A recorder of spans and events

A recorder keeps every span when it closes and every event when it happens,
in that order, with the last value that each field was given.  Open spans are
told apart by numbers.  Opening a span under a number that is in use closes
the span that had it.
-/

namespace ProbeForest.Journal

/-- Fields as texts, each name at most once. -/
abbrev Texts := List (String × String)

/-- Fields as texts, with the last value of each name. -/
def Fields.texts (fields : Fields) : Texts :=
  fields.settled.map fun (name, value) => (name, value.recorded)

/-- A span that has closed. -/
structure SpanRecord where
  name : String
  fields : Texts
deriving DecidableEq, Repr

/-- An event that happened; its message is one of its fields. -/
structure EventRecord where
  level : Level
  target : String
  fields : Texts
deriving DecidableEq, Repr

/-- The message of an event. -/
def EventRecord.message? (e : EventRecord) : Option String := e.fields.lookup "message"

/-- The record of an event. -/
def Event.record (e : Event) : EventRecord :=
  let message := e.message.toList.map fun m => ("message", Value.shown m)
  ⟨e.level, e.target, Fields.texts (message ++ e.fields.known)⟩

/-- A span that is open: the names its fields may have, and the values given so far. -/
structure OpenSpan where
  name : String
  declared : List String
  fields : Fields
deriving DecidableEq, Repr

def OpenSpan.ofStart (start : SpanStart) : OpenSpan :=
  ⟨start.name, start.fields.map (·.1), start.fields.known⟩

/-- Gives fields new values; a name that was not declared is passed over. -/
def OpenSpan.note (s : OpenSpan) (fields : Fields) : OpenSpan :=
  { s with fields := s.fields ++ fields.filter fun field => s.declared.contains field.1 }

def OpenSpan.record (s : OpenSpan) : SpanRecord := ⟨s.name, s.fields.texts⟩

/-- Closed spans, events, and the spans that are still open by number. -/
structure Recorder where
  opened : List (Nat × OpenSpan)
  spans : Array SpanRecord
  events : Array EventRecord
deriving DecidableEq, Repr

namespace Recorder

def empty : Recorder := ⟨[], #[], #[]⟩

/-- Closes the span with a number, if there is one. -/
def close (r : Recorder) (id : Nat) : Recorder :=
  match r.opened.lookup id with
  | none => r
  | some span =>
    { r with
      opened := r.opened.filter fun entry => entry.1 != id
      spans := r.spans.push span.record }

/-- Opens a span under a number. -/
def «open» (r : Recorder) (id : Nat) (start : SpanStart) : Recorder :=
  let r := r.close id
  { r with opened := (id, OpenSpan.ofStart start) :: r.opened }

/-- Gives fields of the span with a number new values. -/
def note (r : Recorder) (id : Nat) (fields : Fields) : Recorder :=
  { r with
    opened := r.opened.map fun (other, span) =>
      (other, if other = id then span.note fields else span) }

/-- Keeps an event. -/
def emit (r : Recorder) (event : Event) : Recorder :=
  { r with events := r.events.push event.record }

/-- Closes every span that is still open, in ascending order of their numbers. -/
def closeAll (r : Recorder) : Recorder :=
  ((r.opened.map (·.1)).mergeSort (· ≤ ·)).foldl close r

/-- The first closed span with a name. -/
def spanNamed? (r : Recorder) (name : String) : Option SpanRecord :=
  r.spans.find? (·.name == name)

/-- The first event with a message. -/
def eventWithMessage? (r : Recorder) (message : String) : Option EventRecord :=
  r.events.find? (·.message? == some message)

/-! ## Recording a journal

Spans of a journal are nested, so that the number of open spans tells them apart. -/

/-- Records one line of a journal. -/
def follow (r : Recorder) : Entry → Recorder
  | .opened start => r.open (r.opened.length + 1) start
  | .noted fields => r.note r.opened.length fields
  | .closed => r.close r.opened.length
  | .event event => r.emit event
  | .metric _ => r

/-- Records a journal. -/
def ofJournal (journal : Journal) : Recorder := journal.foldl follow empty

end Recorder

/-- The measurements of a journal, in order. -/
def metrics (journal : Journal) : List Metric :=
  journal.toList.filterMap fun
    | .metric metric => some metric
    | _ => none

end ProbeForest.Journal
