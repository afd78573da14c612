import ProbeForest.Decimal.Literal
import ProbeForest.Journal.Basic
import ProbeForest.Text.Pattern.Reader

/-!
# Directives of a log filter

A directive says up to which verbosity diagnostics pass, and which ones it is
about.  It is written `target[span{field=value}]=level`, where every part may
be missing:

* `target` is the beginning of the targets that it covers;
* `span` is the name of a span, and `field` the name of a field; the field may
  be required to have a value;
* `level` is the name of a level or its number.  A target alone that is one of
  these is a level; otherwise a directive without a level is about everything.

A value is a flag, a number, or else a pattern for texts.
-/

namespace ProbeForest.Journal

/-- The verbosity that a word names: a level, its number, or off.  Capitals do not matter. -/
def verbosity? (word : String) : Option Nat :=
  match (Text.readCount word).filter (· ≤ Level.trace.verbosity) with
  | some n => some n
  | none =>
    [("off", 0), ("error", 1), ("warn", 2), ("info", 3), ("debug", 4), ("trace", 5)].lookup
      (word.map Char.toLower)

/-! ## Conditions on fields -/

/-- A condition on the value of a field. -/
inductive ValueTest where
  | flag (b : Bool)
  | natural (n : Nat)
  | integer (i : Int)
  | real (x : Decimal.Binary64)
  /-- A text that the pattern, written as `source`, covers. -/
  | pattern (source : String) (pattern : Text.Pattern)
deriving DecidableEq, Repr

namespace ValueTest

/-- Reads a condition: the first kind of value that the text can be written for. -/
def parse? (text : String) : Option ValueTest :=
  if text = flagText true then some (.flag true)
  else if text = flagText false then some (.flag false)
  else
    match Text.readCount text, Text.readSigned text, Decimal.Binary64.parse? text with
    | some n, _, _ => some (.natural n)
    | none, some i, _ => some (.integer i)
    | none, none, some x => some (.real x)
    | none, none, none => (Text.Pattern.parse? text).map (.pattern text)

/-- The value is as the condition wants it. -/
def holds : ValueTest → Value → Bool
  | flag b, .flag c => b == c
  | natural n, .natural m => n == m
  | natural n, .integer i => i == n
  | integer i, .integer j => i == j
  | real x, .real y => x.isNear y
  | pattern _ p, .text s | pattern _ p, .shown s => p.covers s
  | pattern _ p, .wide i => p.covers (toString i)
  | _, _ => false

end ValueTest

/-- A condition on a field: there is one of that name, and perhaps its value is tested. -/
structure FieldTest where
  name : String
  value : Option ValueTest
deriving DecidableEq, Repr

namespace FieldTest

/-- Reads a condition: a name, and behind an equals sign what the value must
be.  What stands behind a second one does not matter. -/
def parse? (text : String) : Option FieldTest :=
  match text.splitOn "=" with
  | name :: value :: _ => (ValueTest.parse? value).map fun test => ⟨name, some test⟩
  | _ => some ⟨text, none⟩

/-- The value of the field is as it is wanted. -/
def holds (t : FieldTest) (fields : Fields) : Bool :=
  match t.value with
  | none => true
  | some test => (fields.lookup t.name).any test.holds

end FieldTest

/-! ## Directives -/

/-- What a directive is about. -/
structure Subject where
  /-- The beginning of the targets that are covered; without it, all are. -/
  target : Option String
  /-- The name of a span. -/
  span : Option String
  field : Option FieldTest
deriving DecidableEq, Repr

/-- One rule of a filter. -/
structure Directive where
  subject : Subject
  /-- The verbosity up to which diagnostics pass. -/
  verbosity : Nat
deriving DecidableEq, Repr

namespace Subject

def everything : Subject := ⟨none, none, none⟩

def coversTarget (s : Subject) (target : String) : Bool :=
  s.target.all fun start => start.toList.isPrefixOf target.toList

/-- A diagnostic with these fields has the field that the directive is about. -/
def coversFields (s : Subject) (declared : List String) : Bool :=
  s.field.all fun test => declared.contains test.name

/-- The directive is about single spans: what happens inside them depends on it. -/
def isAboutSpans (s : Subject) : Bool := s.span.isSome || s.field.isSome

/-- The directive is about diagnostics wherever they happen. -/
def isAboutDiagnostics (s : Subject) : Bool :=
  s.span.isNone && s.field.all (·.value.isNone)

/-- The directive is about the span. -/
def watches (s : Subject) (start : SpanStart) : Bool :=
  s.isAboutSpans && s.coversTarget start.target && s.span.all (· == start.name)
    && s.coversFields (start.fields.map (·.1))

/-- The value of a field is tested. -/
def testsValue (s : Subject) : Bool := s.field.any (·.value.isSome)

end Subject

/-! ## Reading directives -/

/-- What has been read of a directive, and where its next part begins.
Positions are counted in bytes. -/
inductive DirectiveProgress where
  | start
  | inTarget (first : Nat)
  | inSpan (target : Option String) (first : Nat)
  | inField (target span : Option String) (first : Nat)
  /-- The brace behind a field has been read. -/
  | afterField (subject : Subject)
  /-- The bracket behind a span has been read. -/
  | afterSpan (subject : Subject)
  | inLevel (subject : Subject) (first : Nat)
deriving DecidableEq, Repr

namespace Directive

/-- The part of a text between two positions. -/
def cut (text : String) (first stop : Nat) : Option String :=
  Text.decode? (((Text.encode text).take stop).drop first)

/-- A directive may begin with the character, unless it begins with a span. -/
def startsTarget (c : Char) : Bool :=
  Text.isAlphanumeric c || c == '-' || c == ':' || c == '_'

/-- Reads one character of a directive, given the part of its text between two positions. -/
def advance (part : Nat → Nat → Option String) :
    DirectiveProgress → Nat × Char → Option DirectiveProgress
  | .start, (here, c) =>
    if c = '[' then some (.inSpan none (here + 1))
    else if startsTarget c then some (.inTarget here)
    else none
  | .inTarget first, (here, c) =>
    if c = '=' then (part first here).map fun t => .inLevel ⟨some t, none, none⟩ (here + 1)
    else if c = '[' then (part first here).map fun t => .inSpan (some t) (here + 1)
    else some (.inTarget first)
  | .inSpan target first, (here, c) =>
    if c = ']' then (part first here).map fun span => .afterSpan ⟨target, some span, none⟩
    else if c = '\x7b' then
      (part first here).map fun span =>
        .inField target (if span.isEmpty then none else some span) (here + 1)
    else some (.inSpan target first)
  | .inField target span first, (here, c) =>
    if c = '\x7d' then do
      let field ← part first here
      if field.isEmpty then none
      return .afterField ⟨target, span, ← FieldTest.parse? field⟩
    else some (.inField target span first)
  | .afterField subject, (_, c) => if c = ']' then some (.afterSpan subject) else none
  | .afterSpan subject, (here, c) => if c = '=' then some (.inLevel subject (here + 1)) else none
  | .inLevel subject first, _ => some (.inLevel subject first)

/-- The directive that has been read when its text ends. -/
def finish (rest : Nat → Option String) : DirectiveProgress → Option Directive
  | .inTarget first => do
    let target ← rest first
    match verbosity? target with
    | some verbosity => return ⟨.everything, verbosity⟩
    | none => return ⟨⟨some target, none, none⟩, Level.trace.verbosity⟩
  | .afterSpan subject => some ⟨subject, Level.trace.verbosity⟩
  | .inLevel subject first => do
    let level ← rest first
    if level.isEmpty then return ⟨subject, Level.trace.verbosity⟩
    return ⟨subject, ← verbosity? level⟩
  | _ => none

/-- The characters of a text, each with its position. -/
def positions (here : Nat) : List Char → List (Nat × Char)
  | [] => []
  | c :: cs => (here, c) :: positions (here + c.utf8Size) cs

/-- Reads a directive.  Positions are counted from the first character that is
not blank, but parts are cut out of the text with its blanks: a blank in front
moves every part to the left, and one behind belongs to the last part. -/
def parse? (text : String) : Option Directive := do
  let characters := positions 0 (Text.trimBlanks text.toList)
  let progress ← characters.foldlM (advance (cut text)) .start
  finish (fun first => cut text first text.utf8ByteSize) progress

end Directive

end ProbeForest.Journal
