import ProbeForest.Text.Utf8

/-!
# Signatures and home slots

The signature of a key is a weighted sum of the first four bytes of its UTF-8
form.  It is a weak hash on purpose: keys that share four bytes always
collide, and the sums of different keys lie close together, so that probe
sequences grow long enough to be worth measuring.
-/

namespace ProbeForest.Table

/-- The weights of the first four bytes, in order. -/
def weights : List Nat := [39, 392, 393, 394]

/-- The weighted sum of bytes; bytes beyond the last weight count nothing, and
weights beyond the last byte neither. -/
def weigh (bytes : List UInt8) : Nat :=
  (bytes.zipWith (fun byte weight => weight * byte.toNat) weights).foldl (· + ·) 0

/-- The signature of a key. -/
def signature (key : String) : Nat :=
  weigh (Text.encode key)

/-- The slot at which the probe sequence of a key starts. -/
def home (key : String) (capacity : Nat) : Nat :=
  signature key % capacity

end ProbeForest.Table
