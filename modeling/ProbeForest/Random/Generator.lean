/-!
# A seeded generator of 64-bit words

The generator is xoshiro256++: four words of state, one of which is scrambled
into every answer.  A seed of one word is stretched into a state by a linear
congruential generator whose answers are permuted to 32 bits (PCG); eight of
them fill the state, low halves first.  All arithmetic wraps.
-/

namespace ProbeForest.Random

/-- Rotates a word to the left, by less than its width. -/
def rotateLeft64 (x : UInt64) (amount : UInt64) : UInt64 :=
  (x <<< amount) ||| (x >>> (64 - amount))

/-- Rotates a word to the right; no rotation at all leaves it as it is. -/
def rotateRight32 (x : UInt32) (amount : UInt32) : UInt32 :=
  (x >>> amount) ||| (x <<< ((32 - amount) % 32))

/-- The state of the generator. -/
structure Generator where
  s0 : UInt64
  s1 : UInt64
  s2 : UInt64
  s3 : UInt64
deriving DecidableEq, Repr

namespace Generator

/-- The step of the seeding sequence. -/
def stretch (x : UInt64) : UInt64 :=
  x * 6364136223846793005 + 11634580027462260723

/-- The 32 bits that a state of the seeding sequence gives. -/
def permuted (x : UInt64) : UInt32 :=
  rotateRight32 (((x >>> 18) ^^^ x) >>> 27).toUInt32 (x >>> 59).toUInt32

/-- Two answers of the seeding sequence as one word, the first one low. -/
def seedWord (x : UInt64) : UInt64 × UInt64 :=
  let first := stretch x
  let second := stretch first
  ((permuted first).toUInt64 ||| ((permuted second).toUInt64 <<< 32), second)

/-- The generator of a seed. -/
def ofSeed (seed : UInt64) : Generator :=
  let (s0, x) := seedWord seed
  let (s1, x) := seedWord x
  let (s2, x) := seedWord x
  let (s3, _) := seedWord x
  ⟨s0, s1, s2, s3⟩

/-- The next word, and the generator after it. -/
def next (g : Generator) : UInt64 × Generator :=
  let answer := rotateLeft64 (g.s0 + g.s3) 23 + g.s0
  let s2 := g.s2 ^^^ g.s0
  let s3 := g.s3 ^^^ g.s1
  (answer, ⟨g.s0 ^^^ s3, g.s1 ^^^ s2, s2 ^^^ (g.s1 <<< 17), rotateLeft64 s3 45⟩)

end Generator

end ProbeForest.Random
