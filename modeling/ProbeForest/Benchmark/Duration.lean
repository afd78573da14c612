/-!
# Durations

A duration is a number of seconds and a number of nanoseconds below one
second.  Dividing it by a whole number divides both parts and carries the
seconds that are left over into the nanoseconds, rounding down.
-/

namespace ProbeForest.Benchmark

/-- The nanoseconds of a second. -/
def nanosPerSecond : Nat := 1000000000

/-- A span of time. -/
structure Duration where
  seconds : Nat
  nanos : Nat
deriving DecidableEq, Repr

namespace Duration

def zero : Duration := ⟨0, 0⟩

/-- A duration of a number of nanoseconds. -/
def ofNanos (n : Nat) : Duration := ⟨n / nanosPerSecond, n % nanosPerSecond⟩

/-- The whole microseconds. -/
def toMicros (d : Duration) : Nat := d.seconds * 1000000 + d.nanos / 1000

/-- The duration divided by `n`, rounded down to a nanosecond. -/
def div (d : Duration) (n : Nat) : Duration :=
  let carried := (d.seconds % n * nanosPerSecond + d.nanos % n) / n
  ⟨d.seconds / n, d.nanos / n + carried⟩

end Duration

end ProbeForest.Benchmark
