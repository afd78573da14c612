import ProbeForest.Decimal.Binary64

/-!
# The shortest decimal that reads back

Every binary64 number is the nearest one to all reals of an interval around
it; the two ends belong to the interval when the mantissa is even.  The
shortest decimal of the number is the point nearest to it on the coarsest
decimal grid that has a point in this interval.  A grid that has a point there
has one next to the number, so that only two points of each grid are tested.
Of two points equally near the larger one is taken.

All tests compare natural numbers: the number and the interval are kept in
quarters of the last binary place.
-/

namespace ProbeForest.Decimal

/-- The number `digits * 10 ^ exponent`. -/
structure Digits where
  digits : Nat
  exponent : Int
deriving DecidableEq, Repr

/-- The interval of reals that read back as a number `centre * unit`, with its
ends in the same unit. -/
structure Interval where
  low : Nat
  centre : Nat
  high : Nat
  closed : Bool

/-- The interval of `mantissa * 2 ^ q`, in units of `2 ^ (q - 2)`.  Below a
power of two the neighbour is only half as far away, except at the least
exponent. -/
def Interval.ofParts (mantissa : Nat) (q : Int) : Interval :=
  let below := if mantissa = Nat.pow 2 52 ∧ -1074 < q then 1 else 2
  ⟨4 * mantissa - below, 4 * mantissa, 4 * mantissa + 2, mantissa % 2 == 0⟩

/-- `point * den` lies in the interval scaled by `num`. -/
def Interval.contains (i : Interval) (num den point : Nat) : Bool :=
  let scaled := point * den
  if i.closed then i.low * num ≤ scaled && scaled ≤ i.high * num
  else i.low * num < scaled && scaled < i.high * num

/-- `2 ^ two / 10 ^ ten` as a pair of numerator and denominator. -/
def scaleTwoTen (two ten : Int) : Nat × Nat :=
  let (num, den) := scaleTwo 1 1 two
  if 0 ≤ ten then (num, den * Nat.pow 10 ten.toNat) else (num * Nat.pow 10 (-ten).toNat, den)

/-- The point of the grid of multiples of `10 ^ ten` that is nearest to the
number, if one lies in its interval. -/
def Interval.gridPoint? (i : Interval) (two ten : Int) : Option Nat :=
  let (num, den) := scaleTwoTen two ten
  let lower := i.centre * num / den
  let lowerFits := i.contains num den lower
  let upperFits := i.contains num den (lower + 1)
  if lowerFits && upperFits then
    if 2 * (i.centre * num - lower * den) < den then some lower else some (lower + 1)
  else if lowerFits then some lower
  else if upperFits then some (lower + 1)
  else none

/-- Tries `fuel` grids from `10 ^ ten` downward. -/
def Interval.coarsest (i : Interval) (two : Int) : (fuel : Nat) → (ten : Int) → Digits
  | 0, ten => ⟨0, ten⟩
  | fuel + 1, ten =>
    match i.gridPoint? two ten with
    | some point => ⟨point, ten⟩
    | none => i.coarsest two fuel (ten - 1)

/-- The shortest decimal of `mantissa * 2 ^ q`, for a mantissa that is not zero.
No number lies above `10 ^ 309`, and the grid of `10 ^ -343` is finer than any interval. -/
def shortest (mantissa : Nat) (q : Int) : Digits :=
  (Interval.ofParts mantissa q).coarsest (q - 2) 653 309

end ProbeForest.Decimal
