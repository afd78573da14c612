import ProbeForest.Text.Blank
import ProbeForest.Text.Quoted

/-!
# The format of a log

A log is written for people or as one object per line.  The format is chosen
by a setting, in which blanks at the ends and capitals do not matter; without
the setting a log is for people.
-/

namespace ProbeForest.Journal

/-- The two formats of a log. -/
inductive Format where
  | human
  | json
deriving DecidableEq, Repr

/-- Why a setting names no format. -/
inductive FormatError where
  /-- The setting is not text. -/
  | invalidUnicode (setting : List UInt8)
  /-- There is no format of that name. -/
  | unsupported (provided : String)
deriving DecidableEq, Repr

/-- The name of the setting. -/
def formatSetting : String := "KATSUO_LOG_FORMAT"

def FormatError.message : FormatError → String
  | invalidUnicode setting =>
    s!"environment variable `{formatSetting}` contained invalid UTF-8: "
      ++ s!"environment variable was not valid unicode: {Text.quoteBytes setting}"
  | unsupported provided =>
    s!"unsupported log format `{provided}`; expected `human` or `json`"

namespace Format

/-- The format that a text names. -/
def parse (text : String) : Except FormatError Format :=
  match String.ofList ((Text.trimBlanks text.toList).map Char.toLower) with
  | "human" => .ok human
  | "json" => .ok json
  | provided => .error (.unsupported provided)

/-- The format that the bytes of a setting ask for. -/
def ofSetting : Option (List UInt8) → Except FormatError Format
  | none => .ok human
  | some bytes =>
    match Text.decode? bytes with
    | some text => parse text
    | none => .error (.invalidUnicode bytes)

end Format

end ProbeForest.Journal
