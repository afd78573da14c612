import ProbeForest.Text.Utf8

/-!
# Byte streams that may fail

A stream hands out its bytes chunk by chunk.  After the last chunk it either
ends or fails with a message.  Reading it to the end, or line by line, gives
results that do not depend on where one chunk stops and the next begins.

A line ends at a line feed, or at the end of the stream.  Reading the last,
unterminated line of a stream that fails gives that failure, whatever bytes
of the line have been seen; a line that is complete is checked first.
-/

namespace ProbeForest.Text

/-- Why a stream could not be read. -/
inductive ReadError where
  /-- The source of the bytes failed. -/
  | failed (message : String)
  /-- The bytes are not UTF-8. -/
  | illFormed
deriving DecidableEq, Repr

def ReadError.message : ReadError → String
  | failed message => message
  | illFormed => "stream did not contain valid UTF-8"

/-- A stream of bytes; `failure` says how it fails after the last chunk, if it does. -/
structure Stream where
  chunks : List (List UInt8)
  failure : Option String
deriving Repr

namespace Stream

/-- A stream that hands out all its bytes and ends. -/
def ofBytes (bytes : List UInt8) : Stream := ⟨[bytes], none⟩

/-- A stream that hands out at most `size` bytes at a time, at least one. -/
def chunked (size : Nat) (bytes : List UInt8) (failure : Option String) : Stream :=
  ⟨go bytes.length bytes, failure⟩
where
  go : (fuel : Nat) → List UInt8 → List (List UInt8)
    | 0, _ => []
    | _, [] => []
    | fuel + 1, rest => rest.take (max size 1) :: go fuel (rest.drop (max size 1))

/-- What follows the last chunk: the end, or the failure. -/
def ending (s : Stream) : Except ReadError Unit :=
  match s.failure with
  | none => .ok ()
  | some message => .error (.failed message)

/-- Bytes as text. -/
def text (bytes : List UInt8) : Except ReadError String :=
  match decode? bytes with
  | some text => .ok text
  | none => .error .illFormed

/-- Reads a stream to its end as text.  A failure of the stream comes before a fault in its bytes. -/
def readText (s : Stream) : Except ReadError String := do
  s.ending
  text s.chunks.flatten

/-- The byte that ends a line. -/
def lineFeed : UInt8 := 10

/-- What the complete lines gave, and the bytes of the line that is still open, backwards. -/
structure Reading (α : Type) where
  state : α
  line : List UInt8

/-- Ends the open line and hands it to `use`. -/
def Reading.endLine (use : α → String → α) (r : Reading α) : Except ReadError (Reading α) := do
  return ⟨use r.state (← text r.line.reverse), []⟩

/-- Takes one more byte. -/
def Reading.take (use : α → String → α) (r : Reading α) (byte : UInt8) :
    Except ReadError (Reading α) :=
  if byte = lineFeed then r.endLine use else .ok { r with line := byte :: r.line }

/-- Hands every line, without its line feed, to `use`, together with what the
lines before it gave. -/
def foldLines (s : Stream) (use : α → String → α) (start : α) : Except ReadError α := do
  let r ← s.chunks.foldlM (fun r chunk => chunk.foldlM (Reading.take use) r) ⟨start, []⟩
  s.ending
  if r.line.isEmpty then return r.state
  return (← r.endLine use).state

end Stream

end ProbeForest.Text
