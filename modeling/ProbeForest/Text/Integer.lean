/-!
# Integer literals

A literal is an optional sign and then one or more ASCII digits; nothing may
stand before, between or after them.  Leading zeros are allowed.  A natural
number takes only the sign `+`; an integer takes `+` or `-`.  A literal whose
value lies outside the given bounds is no literal at all.
-/

namespace ProbeForest.Text

/-- The value of a digit character. -/
def digitValue (c : Char) : Nat := c.toNat - '0'.toNat

/-- The value of a list of digit characters, most significant first. -/
def digitsValue (digits : List Char) : Nat :=
  digits.foldl (fun value c => 10 * value + digitValue c) 0

/-- Reads one or more digits, and nothing else. -/
def readDigits (cs : List Char) : Option Nat :=
  if cs ≠ [] ∧ cs.all Char.isDigit then some (digitsValue cs) else none

/-- Reads a natural number below `limit`. -/
def readNatural (limit : Nat) (cs : List Char) : Option Nat :=
  let digits := match cs with
    | '+' :: rest => rest
    | _ => cs
  (readDigits digits).filter (· < limit)

/-- Reads an integer of at least `low` and at most `high`. -/
def readInteger (low high : Int) (cs : List Char) : Option Int :=
  let value := match cs with
    | '+' :: rest => (readDigits rest).map Int.ofNat
    | '-' :: rest => (readDigits rest).map fun n => -(n : Int)
    | _ => (readDigits cs).map Int.ofNat
  value.filter fun v => low ≤ v && v ≤ high

/-- One more than the largest count. -/
def countLimit : Nat := Nat.pow 2 64

/-- Reads a count: a natural number of 64 bits. -/
def readCount (token : String) : Option Nat := readNatural countLimit token.toList

/-- Reads a signed number of 64 bits. -/
def readSigned (token : String) : Option Int :=
  readInteger (-(Nat.pow 2 63 : Nat)) (Nat.pow 2 63 - 1 : Nat) token.toList

end ProbeForest.Text
