import ProbeForest.Decimal.Binary64
import ProbeForest.Text.Integer

/-!
# Decimal literals of binary64 numbers

A literal is an optional sign and then a numeral or one of the words `inf`,
`infinity` and `nan`, in which capitals do not matter.  A numeral has digits,
with at most one point before, between or behind them, and perhaps an
exponent.  It stands for the nearest binary64 number.
-/

namespace ProbeForest.Decimal

/-- A natural number times a power of ten. -/
structure Numeral where
  digits : Nat
  exponent : Int
deriving DecidableEq, Repr

namespace Numeral

/-- The exponent behind its mark. -/
def readExponent? : List Char → Option Int
  | '-' :: cs => (Text.readDigits cs).map fun n => -(n : Int)
  | '+' :: cs => (Text.readDigits cs).map Int.ofNat
  | cs => (Text.readDigits cs).map Int.ofNat

/-- Reads a numeral. -/
def parse? (cs : List Char) : Option Numeral := do
  let isMark (c : Char) := c == 'e' || c == 'E'
  let digits := cs.takeWhile (!isMark ·)
  let exponent ← match cs.dropWhile (!isMark ·) with
    | [] => some 0
    | _ :: cs => readExponent? cs
  let whole := digits.takeWhile (· != '.')
  let places := (digits.dropWhile (· != '.')).drop 1
  return ⟨← Text.readDigits (whole ++ places), exponent - places.length⟩

/-- The nearest binary64 number.  Beyond the range of these numbers on either
side the power of ten is not computed. -/
def toBinary64 (n : Numeral) : Binary64 :=
  let size : Int := (Nat.toDigits 10 n.digits).length + n.exponent
  if n.digits = 0 ∨ size < -400 then ⟨0⟩
  else if 400 < size then .positiveInfinity
  else if 0 ≤ n.exponent then .ofNat (n.digits * Nat.pow 10 n.exponent.toNat)
  else .ofRatio n.digits (Nat.pow 10 (-n.exponent).toNat)

end Numeral

namespace Binary64

/-- The number with the other sign. -/
def negate (x : Binary64) : Binary64 := ⟨x.bits ^^^ 0x8000000000000000⟩

/-- Reads a literal without its sign. -/
def readUnsigned? (cs : List Char) : Option Binary64 :=
  match String.ofList (cs.map Char.toLower) with
  | "inf" | "infinity" => some positiveInfinity
  | "nan" => some quietNaN
  | _ => (Numeral.parse? cs).map Numeral.toBinary64

/-- Reads a literal. -/
def parse? (text : String) : Option Binary64 :=
  match text.toList with
  | '-' :: cs => (readUnsigned? cs).map negate
  | '+' :: cs => readUnsigned? cs
  | cs => readUnsigned? cs

/-- The difference of two binary64 numbers is smaller than the gap above one;
what is no number is near to what is no number. -/
def isNear (x y : Binary64) : Bool :=
  match x.parts, y.parts with
  | .notANumber, .notANumber => true
  | .finite _ _ _, .finite _ _ _ =>
    (Float.ofBits x.bits - Float.ofBits y.bits).abs < Float.ofBits 0x3cb0000000000000
  | _, _ => false

end Binary64

end ProbeForest.Decimal
