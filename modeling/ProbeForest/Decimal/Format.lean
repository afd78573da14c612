import ProbeForest.Decimal.Shortest

/-!
# Binary64 numbers as text

Three forms are in use.  The *positional* form has the shortest digits that
read back and never an exponent; a whole number has no decimal point.  The
*general* form has the same digits, but at least one after the point, and an
exponent for numbers that are very large or very small.  The *fixed* form has
a given number of places and rounds the exact value, a half to the even digit.
-/

namespace ProbeForest.Decimal

/-- The digits of a number with a decimal point at their place. -/
def Digits.positional (d : Digits) : String :=
  let digits := Nat.toDigits 10 d.digits
  if 0 ≤ d.exponent then String.ofList (digits ++ List.replicate d.exponent.toNat '0')
  else
    let places := (-d.exponent).toNat
    let padded := List.replicate (places + 1 - digits.length) '0' ++ digits
    let whole := padded.length - places
    String.ofList (padded.take whole ++ '.' :: padded.drop whole)

/-- One digit, a point and the others, and the exponent of ten that belongs to that. -/
def Digits.scientific (d : Digits) : String :=
  let digits := Nat.toDigits 10 d.digits
  let exponent := d.exponent + (digits.length - 1 : Nat)
  let fraction := if digits.length ≤ 1 then [] else '.' :: digits.drop 1
  String.ofList (digits.take 1 ++ fraction) ++ s!"e{exponent}"

/-- `mantissa * 2 ^ q` with exactly `places` digits after the point. -/
def fixedPoint (places mantissa : Nat) (q : Int) : String :=
  let (num, den) := scaleTwo (mantissa * Nat.pow 10 places) 1 q
  Digits.positional ⟨roundHalfEven num den, -places⟩

/-- The sign of a number that is not positive. -/
def signText (negative : Bool) : String := if negative then "-" else ""

namespace Binary64

/-- Writes a number, given how to write a finite one without its sign. -/
def render (x : Binary64) (finite : (mantissa : Nat) → (q : Int) → String) : String :=
  match x.parts with
  | .notANumber => "NaN"
  | .infinite negative => signText negative ++ "inf"
  | .finite negative mantissa q => signText negative ++ finite mantissa q

/-- The positional form. -/
def positional (x : Binary64) : String :=
  x.render fun mantissa q =>
    if mantissa = 0 then "0" else (shortest mantissa q).positional

/-- The exponents of ten for which the general form is positional: from
`10 ^ least` up to, but not including, `10 ^ limit`. -/
structure GeneralRange where
  least : Int
  limit : Int

/-- The general form. -/
def general (range : GeneralRange) (x : Binary64) : String :=
  x.render fun mantissa q =>
    if mantissa = 0 then "0.0"
    else
      let d := shortest mantissa q
      let magnitude := d.exponent + ((Nat.toDigits 10 d.digits).length - 1 : Nat)
      if magnitude < range.least || range.limit ≤ magnitude then d.scientific
      else if 0 ≤ d.exponent then d.positional ++ ".0"
      else d.positional

/-- The fixed form. -/
def fixed (places : Nat) (x : Binary64) : String :=
  x.render fun mantissa q => fixedPoint places mantissa q

end Binary64

end ProbeForest.Decimal
