import ProbeForest.Journal.Directive

/-!
# Log filters

A filter is a list of directives, written with commas between them.

Of the directives about diagnostics wherever they happen, the one that
describes a diagnostic most closely decides about it: the one with the longest
target, and among those one that also asks for a field.  What no directive
covers is off.

A directive about single spans opens the spans that it watches, and asks for
a verbosity inside them.  It has a say as long as the span is open, and an
event passes if any span around it asks for its level.  Fields of a span that
get their value after it was opened are not tested.
-/

namespace ProbeForest.Journal

/-- Rules for which diagnostics pass. -/
structure Filter where
  /-- The directives; no two are about the same. -/
  directives : List Directive
  /-- What is more verbose than this never passes. -/
  ceiling : Nat
deriving DecidableEq, Repr

/-- The verbosities that are asked for inside the open spans. -/
abbrev Scope := List Nat

namespace Filter

/-! ## Reading filters -/

/-- Adds a directive, in place of one that is about the same. -/
def replace (directives : List Directive) (d : Directive) : List Directive :=
  directives.filter (·.subject ≠ d.subject) ++ [d]

/-- The verbosity that lets a directive have its effect.  If it tests a value,
spans of every level have to be looked at. -/
def reach (d : Directive) : Nat :=
  if d.subject.testsValue then Level.trace.verbosity else d.verbosity

/-- The filter of directives.  Those that are replaced still raise the ceiling. -/
def ofDirectives (directives : List Directive) : Filter :=
  ⟨directives.foldl replace [], (directives.map reach).foldl max 0⟩

/-- The filter that is used when none is given, or one that cannot be read. -/
def standard : Filter := ofDirectives [⟨.everything, Level.info.verbosity⟩]

/-- The parts of a text between its commas. -/
def splitCommas (text : List Char) : List (List Char) :=
  text.foldr step [[]]
where
  step (c : Char) : List (List Char) → List (List Char)
    | [] => [[c]]
    | part :: parts => if c = ',' then [] :: part :: parts else (c :: part) :: parts

/-- Reads a filter. -/
def parse? (text : String) : Option Filter := do
  let parts := (splitCommas text.toList).filter (· ≠ [])
  let directives ← parts.mapM fun part => Directive.parse? (String.ofList part)
  return ofDirectives directives

/-- The filter that the bytes of a setting ask for. -/
def ofSetting (setting : Option (List UInt8)) : Filter :=
  ((setting.bind Text.decode?).bind parse?).getD standard

/-! ## Diagnostics wherever they happen -/

/-- How much of a target the directive describes, in bytes. -/
def targetSize (d : Directive) : Nat :=
  d.subject.target.elim 0 fun start => start.utf8ByteSize + 1

/-- The first of two directives describes what both cover at least as closely
as the second.  Of two fields, the one that is later in the alphabet is closer. -/
def isCloser (a b : Directive) : Bool :=
  targetSize b < targetSize a
    || (targetSize b == targetSize a &&
      match b.subject.field, a.subject.field with
      | none, _ => true
      | some _, none => false
      | some other, some field => decide (other.name ≤ field.name))

/-- The directive that decides among those that are given. -/
def closest? (directives : List Directive) : Option Directive :=
  directives.foldl (fun best? d =>
    if best?.all fun best => isCloser d best then some d else best?) none

/-- Diagnostics of a level pass if the closest of the directives says so. -/
def allows (directives : List Directive) (level : Level) : Bool :=
  (closest? directives).any fun d => level.verbosity ≤ d.verbosity

/-- The directives about diagnostics wherever they happen, for a target. -/
def general (f : Filter) (target : String) : List Directive :=
  f.directives.filter fun d => d.subject.isAboutDiagnostics && d.subject.coversTarget target

/-! ## Spans and events -/

/-- The directives that watch a span. -/
def watching (f : Filter) (start : SpanStart) : List Directive :=
  f.directives.filter (·.subject.watches start)

/-- The level of every span. -/
def spanLevel : Level := .info

/-- A span around asks for diagnostics of a level. -/
def asksFor (scope : Scope) (level : Level) : Bool := scope.any (level.verbosity ≤ ·)

/-- A span passes.  One that is watched always does, up to the ceiling. -/
def admitsSpan (f : Filter) (scope : Scope) (start : SpanStart) : Bool :=
  if f.watching start ≠ [] then spanLevel.verbosity ≤ f.ceiling
  else asksFor scope spanLevel || allows (f.general start.target) spanLevel

/-- The verbosity that directives ask for inside a span, from the values its
fields are opened with. -/
def verbosityInside (f : Filter) (start : SpanStart) : Nat :=
  let holding := (f.watching start).filter fun d =>
    d.subject.field.all (·.holds start.fields.known)
  (holding.map (·.verbosity)).foldl max 0

/-- The names of the fields of an event, its message among them. -/
def fieldNames (e : Event) : List String :=
  (e.message.toList.map fun _ => "message") ++ e.fields.map (·.1)

/-- An event passes. -/
def admitsEvent (f : Filter) (scope : Scope) (e : Event) : Bool :=
  asksFor scope e.level
    || allows ((f.general e.target).filter (·.subject.coversFields (fieldNames e))) e.level

end Filter

end ProbeForest.Journal
