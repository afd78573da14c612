import ProbeForest.Journal.Line

/-!
# Log lines as objects

One object per line: the level, the fields of the event with its message, the
target, the innermost open span and all open spans.  A text is escaped where
an object's text has to be, and nowhere else.
-/

namespace ProbeForest.Journal

/-- A character as it is written inside a text. -/
def jsonChar : Char → String
  | '"' => "\\\""
  | '\\' => "\\\\"
  | '\n' => "\\n"
  | '\r' => "\\r"
  | '\t' => "\\t"
  | '\x08' => "\\b"
  | '\x0c' => "\\f"
  | c => if c < ' ' then "\\u00" ++ Text.hexByte c.toNat.toUInt8 else c.toString

/-- A text between quotes. -/
def jsonText (s : String) : String :=
  "\"" ++ String.join (s.toList.map jsonChar) ++ "\""

/-- Members between braces. -/
def jsonObject (members : List (String × String)) : String :=
  let written := members.map fun (name, value) => jsonText name ++ ":" ++ value
  "\x7b" ++ ",".intercalate written ++ "\x7d"

/-- Numbers of an object have an exponent below `10 ^ -5` and from `10 ^ 16` on. -/
def jsonRange : Decimal.Binary64.GeneralRange := ⟨-5, 16⟩

/-- A value as a member: numbers and flags as such, everything else as text. -/
def Value.json : Value → String
  | .natural n => toString n
  | .integer i => toString i
  | .flag b => flagText b
  | .real x =>
    match x.parts with
    | .finite _ _ _ => x.general jsonRange
    | _ => "null"
  | v => jsonText v.recorded

/-- Fields as members, each name once. -/
def Fields.json (fields : Fields) : List (String × String) :=
  fields.settled.map fun (name, value) => (name, value.json)

def SpanView.json (s : SpanView) : String :=
  jsonObject (s.fields.json ++ [("name", jsonText s.name)])

def Line.json (l : Line) : String :=
  let message := l.event.message.toList.map fun m => ("message", jsonText m)
  let innermost := l.spans.getLast?.toList.map fun s => ("span", s.json)
  let all :=
    if l.spans.isEmpty then []
    else [("spans", "[" ++ ",".intercalate (l.spans.map SpanView.json) ++ "]")]
  jsonObject
    ([("level", jsonText l.event.level.name),
        ("fields", jsonObject (message ++ l.event.fields.known.json)),
        ("target", jsonText l.event.target)]
      ++ innermost ++ all)

end ProbeForest.Journal
