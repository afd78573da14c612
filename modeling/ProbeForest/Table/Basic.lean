import ProbeForest.Decimal.Binary64
import ProbeForest.Table.Signature

/-!
# A probe table: open addressing with linear probing

A table has a fixed number of slots.  The probe sequence of a key starts at
its home slot and visits every slot once, wrapping at the end.  A deleted key
leaves a tombstone, so that keys which had probed past it stay reachable; an
insertion may reuse the tombstone.  Keys are not compared on insertion: the
table holds a key as often as it was inserted.

Every operation is one walk along the probe sequence: `walk` finds the first
slot that satisfies a test, and says how many steps it took.
-/

namespace ProbeForest.Table

open ProbeForest.Decimal (Binary64)

/-- A number of slots; a table has at least one. -/
structure Capacity where
  slots : Nat
  positive : 0 < slots

/-- A capacity, unless the number is zero. -/
def Capacity.ofNat? (slots : Nat) : Option Capacity :=
  if h : 0 < slots then some ⟨slots, h⟩ else none

/-- The state of one slot. -/
inductive Slot where
  /-- No key was ever here: probe sequences stop. -/
  | empty
  /-- A key was deleted from here: probe sequences go on. -/
  | tombstone
  /-- A live key. -/
  | occupied (key : String)
deriving DecidableEq, Repr, Inhabited

namespace Slot

/-- An insertion may claim the slot. -/
def isFree : Slot → Bool
  | empty | tombstone => true
  | occupied _ => false

/-- The live key in the slot. -/
def key? : Slot → Option String
  | occupied key => some key
  | empty | tombstone => none

/-- A search for `key` ends here: at the key, or at a slot no key was ever in. -/
def endsSearch (key : String) : Slot → Bool
  | empty => true
  | tombstone => false
  | occupied stored => stored == key

end Slot

/-- Where a walk ended, and how many steps from the home slot that was. -/
structure Probe where
  slot : Nat
  probes : Nat
deriving DecidableEq, Repr

/-- Why a table refused an operation. -/
inductive TableError where
  /-- Every slot holds a live key. -/
  | full (capacity : Nat)
  /-- The search ended without meeting the key. -/
  | notFound (key : String) (probes : Nat)
deriving DecidableEq, Repr

namespace TableError

def message : TableError → String
  | full capacity => s!"probe table is full ({capacity} slots occupied)"
  | notFound key probes => s!"key `{key}` is not present after {probes} probes"

/-- The stable name of the cause. -/
def code : TableError → String
  | full _ => "PROBE_TABLE_FULL"
  | notFound _ _ => "PROBE_TABLE_NOT_FOUND"

end TableError

end ProbeForest.Table

namespace ProbeForest

open Table Decimal

/-- A probe table, with the counts of live keys and of tombstones. -/
structure Table where
  slots : Array Slot
  size : Nat
  tombstones : Nat
deriving DecidableEq, Repr

namespace Table

/-- A table without keys. -/
def ofCapacity (capacity : Capacity) : Table :=
  ⟨Array.replicate capacity.slots .empty, 0, 0⟩

/-- The number of slots. -/
def capacity (t : Table) : Nat := t.slots.size

/-- The slot at an index, if there is one. -/
def slot? (t : Table) (index : Nat) : Option Slot := t.slots[index]?

/-- The live keys, in the order of their slots. -/
def keys (t : Table) : List String := t.slots.toList.filterMap Slot.key?

/-- The fraction of slots that hold live keys. -/
def load (t : Table) : Binary64 := Binary64.ofRatio t.size t.capacity

/-- The slot after `index` on a probe sequence. -/
def next (index capacity : Nat) : Nat :=
  if index + 1 = capacity then 0 else index + 1

/-- Follows a probe sequence for at most `remaining` slots, until a slot passes the test. -/
def walk (slots : Array Slot) (stops : Slot → Bool) :
    (remaining : Nat) → (index probes : Nat) → Option Probe
  | 0, _, _ => none
  | remaining + 1, index, probes =>
    if stops (slots.getD index .empty) then some ⟨index, probes⟩
    else walk slots stops remaining (next index slots.size) (probes + 1)

/-- The first slot that passes the test on the whole probe sequence of a key. -/
def firstStop (t : Table) (key : String) (stops : Slot → Bool) : Option Probe :=
  walk t.slots stops t.capacity (home key t.capacity) 0

/-- Where a key is, or how many steps it took to miss it. -/
def locate (t : Table) (key : String) : Except Nat Probe :=
  match t.firstStop key (Slot.endsSearch key) with
  | some probe => if t.slots.getD probe.slot .empty = .empty then .error probe.probes else .ok probe
  | none => .error t.capacity

/-- Where a key is. -/
def find? (t : Table) (key : String) : Option Probe := (t.locate key).toOption

/-- A live copy of the key is in the table. -/
def contains (t : Table) (key : String) : Bool := (t.find? key).isSome

/-- The table after a free slot has taken a key. -/
def occupy : Table → (index : Nat) → (key : String) → Table
  | ⟨slots, size, tombstones⟩, index, key =>
    let reused := slots.getD index .empty = .tombstone
    ⟨slots.setIfInBounds index (.occupied key), size + 1,
      if reused then tombstones - 1 else tombstones⟩

/-- The table after the key of a slot has been deleted. -/
def bury : Table → (index : Nat) → Table
  | ⟨slots, size, tombstones⟩, index =>
    ⟨slots.setIfInBounds index .tombstone, size - 1, tombstones + 1⟩

/-- The slot that an insertion of a key takes. -/
def insertionSlot (t : Table) (key : String) : Except TableError Probe :=
  if t.size = t.capacity then .error (.full t.capacity)
  else
    match t.firstStop key Slot.isFree with
    | some probe => .ok probe
    | none => .error (.full t.capacity)

/-- Stores a key in the first free slot of its probe sequence.  A full table stays as it is. -/
def insert (t : Table) (key : String) : Except TableError Probe × Table :=
  match t.insertionSlot key with
  | .ok probe => (.ok probe, t.occupy probe.slot key)
  | .error e => (.error e, t)

/-- Deletes the copy of a key that a search meets first, and leaves a tombstone.
A table without the key stays as it is. -/
def erase (t : Table) (key : String) : Except TableError Probe × Table :=
  match t.locate key with
  | .ok probe => (.ok probe, t.bury probe.slot)
  | .error probes => (.error (.notFound key probes), t)

/-- Inserts keys one after another. -/
def insertAll (keys : List String) : StateM Table (List (Except TableError Probe)) :=
  keys.mapM fun key t => t.insert key

/-- Deletes keys one after another. -/
def eraseAll (keys : List String) : StateM Table (List (Except TableError Probe)) :=
  keys.mapM fun key t => t.erase key

end Table

end ProbeForest
