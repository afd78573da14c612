import ProbeForest.Network.Road
import ProbeForest.Text.Blank
import ProbeForest.Text.Stream

/-!
# Connection problems written as text

A problem is written as words: the number of regions, the number of roads, the
fallback cost, and then for each road its two regions and its cost.  Line ends
mean nothing, and words after the last road are ignored.  The words are read
from left to right and the first fault is reported, with the name of the value
that was expected there; roads are numbered from one in these names.
-/

namespace ProbeForest.Network

/-- Why a text is no connection problem. -/
inductive InputError where
  /-- The words end where a value is expected. -/
  | missing (expected : String)
  /-- A word is no integer of the expected kind. -/
  | invalidInteger (token expected : String)
  /-- A count is negative. -/
  | negativeCount (field : String) (value : Int)
  /-- The text could not be read. -/
  | unreadable (message : String)
deriving DecidableEq, Repr

namespace InputError

def message : InputError → String
  | missing expected => s!"input ended while reading {expected}"
  | invalidInteger token expected => s!"expected an integer for {expected}, found `{token}`"
  | negativeCount field value => s!"{field} must not be negative (got {value})"
  | unreadable message => s!"failed to read input: {message}"

/-- The stable name of the cause. -/
def code : InputError → String
  | missing _ => "INPUT_MISSING_TOKEN"
  | invalidInteger _ _ => "INPUT_INVALID_INTEGER"
  | negativeCount _ _ => "INPUT_NEGATIVE_COUNT"
  | unreadable _ => "INPUT_READ"

end InputError

/-- A reader of words: what it reads, and the words it leaves. -/
abbrev WordReader := StateT (List String) (Except InputError)

namespace WordReader

/-- Reads the next word as a value; `expected` names the value in errors. -/
def next (read : String → Option α) (expected : String) : WordReader α := do
  match ← get with
  | [] => throw (.missing expected)
  | token :: rest =>
    set rest
    match read token with
    | some value => return value
    | none => throw (.invalidInteger token expected)

/-- Reads a count: a signed number that is not negative. -/
def count (field : String) : WordReader Nat := do
  match ← next Text.readSigned field with
  | .ofNat n => return n
  | .negSucc n => throw (.negativeCount field (.negSucc n))

/-- Reads a road. -/
def road (number : Nat) : WordReader Road := do
  let left ← next Text.readCount s!"first region of road {number}"
  let right ← next Text.readCount s!"second region of road {number}"
  let cost ← next Text.readSigned s!"cost of road {number}"
  return ⟨left, right, cost⟩

/-- Reads `remaining` roads; `acc` holds those already read, last one first. -/
def roads : (remaining number : Nat) → (acc : List Road) → WordReader (List Road)
  | 0, _, acc => return acc.reverse
  | remaining + 1, number, acc => do roads remaining (number + 1) ((← road number) :: acc)

/-- Reads a whole problem. -/
def problem : WordReader Problem := do
  let regions ← count "region count"
  let roadCount ← count "road count"
  let fallback ← next Text.readSigned "fallback cost"
  return ⟨regions, fallback, ← roads roadCount 1 []⟩

end WordReader

namespace Problem

/-- Reads a problem from its words. -/
def ofWords (words : List String) : Except InputError Problem :=
  (WordReader.problem.run words).map (·.1)

/-- Reads a problem from a text. -/
def ofText (text : String) : Except InputError Problem := ofWords (Text.words text)

/-- Reads a problem from a stream. -/
def ofStream (s : Text.Stream) : Except InputError Problem :=
  match s.readText with
  | .ok text => ofText text
  | .error e => .error (.unreadable e.message)

end Problem

end ProbeForest.Network
