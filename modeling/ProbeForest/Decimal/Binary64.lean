/-!
# Binary64 numbers, exactly

A binary64 number is kept as its 64 bits.  `parts` reads them as a signed
multiple of a power of two, and `ofRatio` rounds a quotient of natural numbers
to the nearest such number, ties to the even mantissa.  Both work in exact
integer arithmetic, so statements about them need no theory of floating point.
-/

namespace ProbeForest.Decimal

/-- `num / den` rounded to the nearest natural number, a half to the even one. -/
def roundHalfEven (num den : Nat) : Nat :=
  let quotient := num / den
  let twice := 2 * (num % den)
  if den < twice || (twice == den && quotient % 2 == 1) then quotient + 1 else quotient

/-- `num / den` times the power `2 ^ shift`, as a pair of numerator and denominator. -/
def scaleTwo (num den : Nat) (shift : Int) : Nat × Nat :=
  if 0 ≤ shift then (num * Nat.pow 2 shift.toNat, den) else (num, den * Nat.pow 2 (-shift).toNat)

/-- A binary64 number, given by its bits: sign, eleven bits of exponent, fifty-two of mantissa. -/
structure Binary64 where
  bits : UInt64
deriving DecidableEq, Repr, Inhabited

namespace Binary64

/-- What the bits of a binary64 number say. -/
inductive Parts where
  | notANumber
  | infinite (negative : Bool)
  /-- The number `± mantissa * 2 ^ exponent`. -/
  | finite (negative : Bool) (mantissa : Nat) (exponent : Int)
deriving DecidableEq, Repr

/-- The number that the bits stand for. -/
def parts (x : Binary64) : Parts :=
  let bits : Nat := x.bits.toNat
  let negative : Bool := Nat.pow 2 63 ≤ bits
  let biased : Nat := bits / Nat.pow 2 52 % Nat.pow 2 11
  let fraction : Nat := bits % Nat.pow 2 52
  if biased = 2047 then
    if fraction = 0 then .infinite negative else .notANumber
  else if biased = 0 then .finite negative fraction (-1074)
  else .finite negative (Nat.pow 2 52 + fraction) ((biased : Int) - 1075)

def positiveInfinity : Binary64 := ⟨0x7ff0000000000000⟩

def quietNaN : Binary64 := ⟨0x7ff8000000000000⟩

/-- The exponent at which the quotient of two positive numbers has a mantissa
of fifty-three bits, or the least exponent there is. -/
def ratioExponent (num den : Nat) : Int :=
  let guess : Int := (num.log2 : Int) - den.log2 - 53
  let (scaledNum, scaledDen) := scaleTwo num den (-guess)
  max (-1074) (if scaledNum / scaledDen < Nat.pow 2 53 then guess else guess + 1)

/-- The binary64 number nearest to `num / den`.  A mantissa that rounds up to
the next power of two carries into the exponent bits by itself. -/
def ofRatio (num den : Nat) : Binary64 :=
  if den = 0 then (if num = 0 then quietNaN else positiveInfinity)
  else if num = 0 then ⟨0⟩
  else
    let exponent := ratioExponent num den
    let (scaledNum, scaledDen) := scaleTwo num den (-exponent)
    let mantissa := roundHalfEven scaledNum scaledDen
    let bits := (exponent + 1074).toNat * Nat.pow 2 52 + mantissa
    if bits < positiveInfinity.bits.toNat then ⟨UInt64.ofNat bits⟩ else positiveInfinity

/-- The binary64 number nearest to a natural number. -/
def ofNat (n : Nat) : Binary64 := ofRatio n 1

end Binary64

end ProbeForest.Decimal
