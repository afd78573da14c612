/-!
# Bytes read as UTF-8 text

`decode?` reads bytes that are well-formed as a whole.  `segments` reads any
bytes: it splits them into characters and stray bytes, so that a report about
ill-formed text can show both.
-/

namespace ProbeForest.Text

/-- The bytes of a text. -/
def encode (text : String) : List UInt8 :=
  text.toList.flatMap String.utf8EncodeChar

/-- The text that well-formed bytes spell. -/
def decode? (bytes : List UInt8) : Option String :=
  String.fromUTF8? bytes.toByteArray

/-- A piece of bytes that need not be well-formed. -/
inductive Segment where
  | char (c : Char)
  | stray (byte : UInt8)
deriving DecidableEq, Repr

/-- The single character that the first `size` bytes spell. -/
def leadingChar? (bytes : List UInt8) (size : Nat) : Option Char :=
  match (decode? (bytes.take size)).map String.toList with
  | some [c] => some c
  | _ => none

/-- The leading character and its number of bytes, at most four. -/
def leading? (bytes : List UInt8) : Option (Char × Nat) :=
  [1, 2, 3, 4].findSome? fun size => (leadingChar? bytes size).map (·, size)

/-- Splits bytes into characters and stray bytes, after passing over the bytes
that belong to a character already seen. -/
def segmentsAfter : (seen : Nat) → List UInt8 → List Segment
  | _, [] => []
  | seen + 1, _ :: rest => segmentsAfter seen rest
  | 0, byte :: rest =>
    match leading? (byte :: rest) with
    | some (c, size) => .char c :: segmentsAfter (size - 1) rest
    | none => .stray byte :: segmentsAfter 0 rest

/-- Splits bytes into characters and stray bytes. -/
def segments (bytes : List UInt8) : List Segment := segmentsAfter 0 bytes

end ProbeForest.Text
