import ProbeForest.Text.Utf8

/-!
# Sinks with limited room

A sink takes the bytes of texts that are written to it.  One with limited room
takes the bytes that fit and then fails; a writer stops at the first failure,
so that the sink holds a leading part of what would have been written.
-/

namespace ProbeForest.Text

/-- Bytes already taken, and how many more fit; without a number, all do. -/
structure Sink where
  written : Array UInt8
  room : Option Nat
deriving DecidableEq, Repr

/-- A sink has no room for the rest of a text. -/
structure SinkFull where
deriving DecidableEq, Repr

def SinkFull.message (_ : SinkFull) : String := "failed to write whole buffer"

/-- A computation that writes to a sink. -/
abbrev Writing := ExceptT SinkFull (StateM Sink)

namespace Sink

/-- An empty sink. -/
def ofRoom (room : Option Nat) : Sink := ⟨#[], room⟩

/-- Takes bytes, as many as fit. -/
def take : Sink → (bytes : List UInt8) → Except SinkFull Unit × Sink
  | ⟨written, none⟩, bytes => (.ok (), ⟨written.appendList bytes, none⟩)
  | ⟨written, some room⟩, bytes =>
    if bytes.length ≤ room then
      (.ok (), ⟨written.appendList bytes, some (room - bytes.length)⟩)
    else (.error ⟨⟩, ⟨written.appendList (bytes.take room), some 0⟩)

/-- Writes a text. -/
def put (text : String) : Writing Unit := ExceptT.mk fun sink => sink.take (encode text)

end Sink

end ProbeForest.Text
