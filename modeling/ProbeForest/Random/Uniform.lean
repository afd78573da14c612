import ProbeForest.Random.Generator

/-!
# Uniform draws from a range

A draw multiplies a random word by the size of the range; the high half of the
product is the answer, and the low half decides whether the word is accepted.
Words beyond the last full multiple of the range are rejected and drawn again.
The range of all words has a size that wraps to zero, and takes words as they
are; a signed number then is a word in two's complement.

The generator has `2 ^ 256` states, so that a draw which rejects that many
words in a row never ends.  Such a draw has no answer.
-/

namespace ProbeForest.Random

/-- A computation that draws random words and may never end. -/
abbrev Draw := StateT Generator Option

/-- The width of the words that a draw takes from the generator. -/
inductive Width where
  | half
  | full
deriving DecidableEq, Repr

namespace Width

def bits : Width → Nat
  | half => 32
  | full => 64

/-- The number of words of the width. -/
def modulus (w : Width) : Nat := Nat.pow 2 w.bits

/-- The next word; half a word is the high half of a full one. -/
def next : Width → Generator → Nat × Generator
  | full, g => let (word, g) := g.next; (word.toNat, g)
  | half, g => let (word, g) := g.next; (word.toNat / Nat.pow 2 32, g)

/-- The largest low half that is accepted for a range of `size` values: one
less than the size shifted up to the full width. -/
def zone (w : Width) (size : Nat) : Nat :=
  size * Nat.pow 2 (w.bits - 1 - size.log2) - 1

end Width

/-- The number of words after which a draw that rejected all of them is given up. -/
def patience : Nat := Nat.pow 2 256

/-- Draws an index below `size`, looking at `fuel` words at most. -/
def indexWithin (w : Width) (size : Nat) : (fuel : Nat) → Draw Nat
  | 0 => failure
  | fuel + 1 => do
    let word ← modifyGet w.next
    let product := word * size
    if product % w.modulus ≤ w.zone size then return product / w.modulus
    else indexWithin w size fuel

/-- Draws a word between `low` and `high`, both included; `low ≤ high` and both fit the width.
The index that was drawn is added to `low` with wrap-around. -/
def wordBetween (w : Width) (low high : Nat) : Draw Nat := do
  let size := (high + 1 - low) % w.modulus
  if size = 0 then modifyGet w.next
  else return (low + (← indexWithin w size patience)) % w.modulus

/-- The width of the words from which an index below `size` is drawn: half a word if it can hold
the size. -/
def indexWidth (size : Nat) : Width := if size < Width.half.modulus then .half else .full

/-- Draws an index below `size`, which is not zero. -/
def pick (size : Nat) : Draw Nat := wordBetween (indexWidth size) 0 (size - 1)

/-- Draws a signed number between `low` and `high`, both included, of 64 bits.  The size of the
range wraps, and so does the sum of `low` and the index that was drawn. -/
def signedBetween (low high : Int) : Draw Int := do
  let size := ((high - low + 1) % Width.full.modulus).toNat
  if size = 0 then return Int.bmod (← modifyGet Width.full.next) Width.full.modulus
  else return Int.bmod (low + (← indexWithin .full size patience)) Width.full.modulus

end ProbeForest.Random
