import ProbeForest.Journal.Filter

/-!
# Log lines

A log has one line for each event that passes the filter.  A line shows the
event with the spans that are open around it, outermost first.  A span that
the filter holds back is not shown, but what happens in it may be.
-/

namespace ProbeForest.Journal

/-- A span as log lines show it. -/
structure SpanView where
  name : String
  fields : Fields
deriving DecidableEq, Repr

/-- One line of a log. -/
structure Line where
  event : Event
  /-- The open spans, outermost first. -/
  spans : List SpanView
deriving DecidableEq, Repr

/-! ## Lines of a journal -/

/-- A span that is open and not held back. -/
structure ShownSpan where
  view : SpanView
  /-- The verbosity that the filter asks for inside the span. -/
  verbosity : Nat
deriving DecidableEq, Repr

/-- The open spans, innermost first; those held back have nothing to show. -/
abbrev OpenSpans := List (Option ShownSpan)

namespace OpenSpans

/-- The verbosities that the filter asks for inside the open spans. -/
def scope (spans : OpenSpans) : Scope := spans.filterMap fun span? => span?.map (·.verbosity)

/-- What lines show of the open spans, outermost first. -/
def views (spans : OpenSpans) : List SpanView :=
  (spans.filterMap fun span? => span?.map (·.view)).reverse

/-- Adds fields to the innermost open span. -/
def note (fields : Fields) : OpenSpans → OpenSpans
  | some ⟨view, verbosity⟩ :: outer =>
    some ⟨{ view with fields := view.fields ++ fields }, verbosity⟩ :: outer
  | spans => spans

/-- Opens a span, unless the filter holds it back. -/
def «open» (f : Filter) (start : SpanStart) (spans : OpenSpans) : OpenSpans :=
  let shown? :=
    if f.admitsSpan spans.scope start then
      some ⟨⟨start.name, start.fields.known⟩, f.verbosityInside start⟩
    else none
  shown? :: spans

/-- The open spans after one line of a journal. -/
def follow (f : Filter) (spans : OpenSpans) : Entry → OpenSpans
  | .opened start => spans.open f start
  | .noted fields => spans.note fields
  | .closed => spans.drop 1
  | .event _ | .metric _ => spans

end OpenSpans

/-- The spans that are open, and the lines so far. -/
structure Log where
  spans : OpenSpans
  lines : Array Line

/-- The log after one line of a journal. -/
def Log.follow (f : Filter) : Log → Entry → Log
  | ⟨spans, lines⟩, entry =>
    let lines := match entry with
      | .event event =>
        if f.admitsEvent spans.scope event then lines.push ⟨event, spans.views⟩ else lines
      | _ => lines
    ⟨spans.follow f entry, lines⟩

/-- The lines that a filter lets pass. -/
def lines (f : Filter) (journal : Journal) : List Line :=
  (journal.foldl (Log.follow f) ⟨[], #[]⟩).lines.toList

/-! ## Lines for people -/

/-- Fields with an equals sign between name and value. -/
def Fields.readable (fields : Fields) : List String :=
  fields.map fun (name, value) => name ++ "=" ++ value.readable

/-- A span with its fields in braces. -/
def SpanView.readable (s : SpanView) : String :=
  if s.fields.isEmpty then s.name
  else s.name ++ "\x7b" ++ " ".intercalate s.fields.readable ++ "\x7d"

/-- The level, the spans, the message and the fields. -/
def Line.readable (l : Line) : String :=
  let spans := String.join (l.spans.map fun s => s.readable ++ ":")
  let scope := if l.spans.isEmpty then [] else [spans]
  " ".intercalate
    ([l.event.level.name] ++ scope ++ l.event.message.toList ++ l.event.fields.known.readable)

end ProbeForest.Journal
