import Mathlib.Tactic.Ring
import ProbeForest.Benchmark.Duration

/-!
# Durations as numbers of nanoseconds

A duration stands for a number of nanoseconds, and only one duration with less
than a second of nanoseconds stands for a number.  Division treats the two
parts apart and divides what is left over of both once more.  Nothing is
rounded before that last division, so that the quotient is the one of the whole
number of nanoseconds, and what the last division adds never makes up a second.

Division is also written down as a machine carries it out, with seconds in
words of 64 bits and nanoseconds and divisors in words of 32 bits.  It gives
nothing when a number on the way does not fit its word; that it always gives
the quotient means that no number is too large.

## Main results

* `toNanos_div` — dividing a duration divides its number of nanoseconds.
* `Normalized.div` — a quotient has less than a second of nanoseconds.
* `Normalized.divInWords?_eq` — no number on the way to it is too large.
-/

namespace ProbeForest.Benchmark.Duration

variable {d : Duration} {n : Nat}

/-- The number of nanoseconds that a duration stands for. -/
def toNanos (d : Duration) : Nat := d.seconds * nanosPerSecond + d.nanos

/-- A duration whose seconds fit a word of 64 bits and whose nanoseconds are less than a second. -/
structure Normalized (d : Duration) : Prop where
  seconds_lt : d.seconds < 2 ^ 64
  nanos_lt : d.nanos < nanosPerSecond

theorem nanosPerSecond_pos : 0 < nanosPerSecond := by decide

theorem nanosPerSecond_lt : nanosPerSecond < 2 ^ 32 := by
  unfold nanosPerSecond
  omega

/-- Less than a second of nanoseconds is all that can be told apart from the seconds. -/
theorem ofNanos_toNanos (h : d.nanos < nanosPerSecond) : ofNanos d.toNanos = d := by
  have hseconds : d.toNanos / nanosPerSecond = d.seconds := by
    rw [toNanos, Nat.mul_comm, Nat.mul_add_div nanosPerSecond_pos, Nat.div_eq_of_lt h,
      Nat.add_zero]
  have hnanos : d.toNanos % nanosPerSecond = d.nanos := by
    rw [toNanos, Nat.mul_comm, Nat.mul_add_mod, Nat.mod_eq_of_lt h]
  rw [ofNanos, hseconds, hnanos]

/-- Whole microseconds are those of the whole number of nanoseconds. -/
theorem toMicros_eq (d : Duration) : d.toMicros = d.toNanos / 1000 := by
  unfold toMicros toNanos nanosPerSecond
  omega

/-! ## Division -/

/-- The nanoseconds and what the seconds left over add to them are divided as if at once. -/
theorem nanos_div (d : Duration) (hn : 0 < n) :
    (d.div n).nanos = (d.seconds % n * nanosPerSecond + d.nanos) / n := by
  have hsplit : d.seconds % n * nanosPerSecond + d.nanos =
      d.seconds % n * nanosPerSecond + d.nanos % n + n * (d.nanos / n) := by
    rw [Nat.add_assoc, Nat.mod_add_div]
  rw [hsplit, Nat.add_mul_div_left _ _ hn, Nat.add_comm]
  rfl

/-- Dividing a duration divides its number of nanoseconds, rounded down. -/
theorem toNanos_div (d : Duration) (hn : 0 < n) : (d.div n).toNanos = d.toNanos / n := by
  have hsplit : d.toNanos =
      d.seconds % n * nanosPerSecond + d.nanos + n * (d.seconds / n * nanosPerSecond) :=
    calc d.toNanos
      _ = (d.seconds % n + n * (d.seconds / n)) * nanosPerSecond + d.nanos := by
        rw [Nat.mod_add_div, toNanos]
      _ = _ := by ring
  rw [hsplit, Nat.add_mul_div_left _ _ hn, ← nanos_div d hn, Nat.add_comm]
  rfl

namespace Normalized

/-- The seconds left over and the nanoseconds are less than a second for each part. -/
theorem left_lt (h : d.Normalized) (hn : 0 < n) :
    d.seconds % n * nanosPerSecond + d.nanos < n * nanosPerSecond :=
  calc d.seconds % n * nanosPerSecond + d.nanos
    _ < d.seconds % n * nanosPerSecond + nanosPerSecond := Nat.add_lt_add_left h.nanos_lt _
    _ = (d.seconds % n + 1) * nanosPerSecond := by ring
    _ ≤ n * nanosPerSecond := Nat.mul_le_mul_right _ (Nat.mod_lt _ hn)

theorem div (h : d.Normalized) (hn : 0 < n) : (d.div n).Normalized where
  seconds_lt := (Nat.div_le_self _ _).trans_lt h.seconds_lt
  nanos_lt := by
    rw [nanos_div d hn]
    exact Nat.div_lt_of_lt_mul (h.left_lt hn)

end Normalized

/-! ## Words -/

/-- A number, if it can be written into a word of some bits. -/
def word? (bits n : Nat) : Option Nat := if n < 2 ^ bits then some n else none

theorem word?_bind {bits : Nat} {f : Nat → Option α} (h : n < 2 ^ bits) :
    (word? bits n >>= f) = f n := by
  rw [word?, if_pos h]
  rfl

/-- The duration divided by `n`, if `n` is not zero and every number on the way can be written
into its word.  Quotients and remainders are no larger than what was divided and are not written
down again, except where 64 bits are cut down to 32. -/
def divInWords? (d : Duration) (n : Nat) : Option Duration := do
  let seconds ← word? 64 d.seconds
  let nanos ← word? 32 d.nanos
  let n ← word? 32 n
  if n = 0 then none else
    let scaled ← word? 64 (seconds % n * nanosPerSecond)
    let left ← word? 64 (scaled + nanos % n)
    let carried ← word? 32 (left / n)
    let nanos ← word? 32 (nanos / n + carried)
    return ⟨seconds / n, nanos⟩

/-- The seconds left over are fewer than the divisor, so that their nanoseconds fit 64 bits. -/
theorem Normalized.left_lt_word (h : d.Normalized) (hn : 0 < n) (hword : n < 2 ^ 32) :
    d.seconds % n * nanosPerSecond + d.nanos < 2 ^ 64 :=
  calc d.seconds % n * nanosPerSecond + d.nanos
    _ < n * nanosPerSecond := h.left_lt hn
    _ ≤ 2 ^ 32 * 2 ^ 32 := Nat.mul_le_mul hword.le nanosPerSecond_lt.le
    _ = 2 ^ 64 := by rw [← Nat.pow_add]

/-- Every number on the way to the quotient fits its word. -/
theorem Normalized.divInWords?_eq (h : d.Normalized) (hn : 0 < n) (hword : n < 2 ^ 32) :
    d.divInWords? n = some (d.div n) := by
  have hleft := h.left_lt_word hn hword
  have hmod : d.nanos % n ≤ d.nanos := Nat.mod_le _ _
  have hsum : d.seconds % n * nanosPerSecond + d.nanos % n < 2 ^ 64 := by omega
  have hscaled : d.seconds % n * nanosPerSecond < 2 ^ 64 := by omega
  have htotal : d.nanos / n + (d.seconds % n * nanosPerSecond + d.nanos % n) / n < 2 ^ 32 :=
    (h.div hn).nanos_lt.trans nanosPerSecond_lt
  have hcarried : (d.seconds % n * nanosPerSecond + d.nanos % n) / n < 2 ^ 32 :=
    (Nat.le_add_left _ _).trans_lt htotal
  rw [divInWords?, word?_bind h.seconds_lt, word?_bind (h.nanos_lt.trans nanosPerSecond_lt),
    word?_bind hword, if_neg hn.ne', word?_bind hscaled, word?_bind hsum, word?_bind hcarried,
    word?_bind htotal]
  rfl

end ProbeForest.Benchmark.Duration
