import ProbeForest.Decimal.Format
import ProbeForest.Text.Quoted

/-!
# Values that diagnostics carry

A field of a diagnostic is a name with a value.  Values keep their kind: a
reader of log lines wants numbers as numbers, and tells a text that was given
as such from one that is the written form of something else.
-/

namespace ProbeForest.Journal

/-- The value of a field. -/
inductive Value where
  | natural (n : Nat)
  | integer (i : Int)
  /-- An integer beyond 64 bits. -/
  | wide (i : Int)
  | real (x : Decimal.Binary64)
  | flag (b : Bool)
  | text (s : String)
  /-- The written form of something else. -/
  | shown (s : String)
  | bytes (bs : List UInt8)
deriving DecidableEq, Repr

/-- Fields in the order in which they were given. -/
abbrev Fields := List (String × Value)

/-- General numbers have an exponent below `10 ^ -4` and from `10 ^ 16` on. -/
def generalRange : Decimal.Binary64.GeneralRange := ⟨-4, 16⟩

/-- Fields as they are declared.  One without value may be given one later, or never. -/
abbrev Declared := List (String × Option Value)

/-- The declared fields that have a value. -/
def Declared.known (declared : Declared) : Fields :=
  declared.filterMap fun (name, value?) => value?.map (name, ·)

/-- Fields that all have a value. -/
def Fields.declared (fields : Fields) : Declared :=
  fields.map fun (name, value) => (name, some value)

def flagText (b : Bool) : String := if b then "true" else "false"

namespace Value

/-- The value as a recorder keeps it: texts as they are, bytes in hexadecimal. -/
def recorded : Value → String
  | natural n => toString n
  | integer i | wide i => toString i
  | real x => x.positional
  | flag b => flagText b
  | text s | shown s => s
  | bytes bs => String.join (bs.map Text.hexByte)

/-- The value as a line for people shows it: texts in quotes. -/
def readable : Value → String
  | natural n => toString n
  | integer i | wide i => toString i
  | real x => x.general generalRange
  | flag b => flagText b
  | text s => Text.quote s
  | shown s => s
  | bytes bs => "[" ++ ", ".intercalate (bs.map fun b => toString b.toNat) ++ "]"

end Value

/-- Fields of which each name keeps the last value it was given. -/
def Fields.settled (fields : Fields) : Fields :=
  fields.foldl put []
where
  put (kept : Fields) (field : String × Value) : Fields :=
    if kept.any (·.1 == field.1) then
      kept.map fun old => if old.1 == field.1 then field else old
    else kept ++ [field]

end ProbeForest.Journal
