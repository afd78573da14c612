import ProbeForest.Proofs.Benchmark.Duration
import ProbeForest.Proofs.Command.Outcome
import ProbeForest.Proofs.Text.Utf8

/-!
# The mean time of a key and how it is printed

The mean time of a key is the time of its batch divided by the number of keys
that are counted, in whole nanoseconds, and a report shows it in whole
microseconds.  Both are rounded down, and rounding down twice is rounding down
once: what is printed is the number of nanoseconds of the batch divided by a
thousand times the number of keys.

## Main results

* `toMicros_perKey` — whole microseconds of a mean are rounded down once.
* `bytes_probe` — the output of a report, line by line.
* `perKey_averages` — a mean as a duration, as words, and as it is printed.
-/

namespace ProbeForest.Benchmark.BatchTiming

open Command (Outcome)
open Text (encode encode_append)

/-- The number of keys that a mean is taken over. -/
def countedKeys (t : BatchTiming) : Nat := max 1 (min t.keys (2 ^ 32 - 1))

theorem perKey_eq_div (t : BatchTiming) : t.perKey = t.elapsed.div t.countedKeys := rfl

theorem countedKeys_pos (t : BatchTiming) : 0 < t.countedKeys := by
  unfold countedKeys
  omega

/-- The number of keys is counted in a word of 32 bits. -/
theorem countedKeys_lt (t : BatchTiming) : t.countedKeys < 2 ^ 32 := by
  unfold countedKeys
  omega

theorem toNanos_perKey (t : BatchTiming) :
    t.perKey.toNanos = t.elapsed.toNanos / t.countedKeys := by
  rw [perKey_eq_div, Duration.toNanos_div _ t.countedKeys_pos]

/-- Rounding down to nanoseconds first does not change the microseconds. -/
theorem toMicros_perKey (t : BatchTiming) :
    t.perKey.toMicros = t.elapsed.toNanos / (1000 * t.countedKeys) := by
  rw [Duration.toMicros_eq, toNanos_perKey, Nat.div_div_eq_div_mul, Nat.mul_comm]

/-! ## Lines -/

/-- The line of a batch that took the given time for a key. -/
def meanLine (batch micros : Nat) : String := s!"average time for batch {batch} is {micros} us\n"

/-- The line of a batch, with the time of a key rounded down once. -/
def line (t : BatchTiming) : String :=
  meanLine t.batch (t.elapsed.toNanos / (1000 * t.countedKeys))

theorem encode_batchTexts (t : BatchTiming) :
    (Outcome.batchTexts t).flatMap encode = encode t.line := by
  unfold Outcome.batchTexts line meanLine
  rw [toMicros_perKey]
  simp only [List.flatMap_cons, List.flatMap_nil, List.append_nil, encode_append,
    List.append_assoc]
  rfl

/-- The output of a report has a line for each batch, in order, and the statistics last. -/
theorem bytes_probe (report : Report) :
    (Outcome.probe report).bytes = report.batches.flatMap (fun t => encode t.line) ++
      (Outcome.statsTexts report.stats).flatMap encode := by
  rw [Outcome.bytes_eq, Outcome.texts, List.flatMap_append, List.flatMap_assoc]
  simp only [encode_batchTexts]

/-! ## Means -/

/-- What the mean time of a key of a batch is, and what a report shows of it. -/
structure Averages (t : BatchTiming) : Prop where
  /-- It is the duration of the whole number of nanoseconds of a key. -/
  perKey_eq : t.perKey = .ofNanos (t.elapsed.toNanos / t.countedKeys)
  normalized : t.perKey.Normalized
  /-- No number on the way to it is too large for its word. -/
  inWords : t.elapsed.divInWords? t.countedKeys = some t.perKey
  /-- Every report with the batch shows the whole microseconds of a key in the line of the batch,
  behind the lines of the batches before it. -/
  printed : ∀ (report : Report) (before behind : List BatchTiming),
    report.batches = before ++ t :: behind →
      (Outcome.probe report).bytes =
        before.flatMap (fun u => encode u.line) ++
          encode (meanLine t.batch (t.elapsed.toNanos / (1000 * t.countedKeys))) ++
          behind.flatMap (fun u => encode u.line) ++
          (Outcome.statsTexts report.stats).flatMap encode

/-- For a batch that took any time that a machine can write down, the mean time of a key is the
exact quotient rounded down to a nanosecond, no number on the way to it is too large for a machine,
and what is printed is the exact quotient rounded down to a microsecond. -/
theorem perKey_averages (t : BatchTiming) (h : t.elapsed.Normalized) : t.Averages := by
  have hnormalized : t.perKey.Normalized := h.div t.countedKeys_pos
  refine
    { perKey_eq := ?_
      normalized := hnormalized
      inWords := ?_
      printed := ?_ }
  · rw [← toNanos_perKey, Duration.ofNanos_toNanos hnormalized.nanos_lt]
  · rw [h.divInWords?_eq t.countedKeys_pos t.countedKeys_lt, perKey_eq_div]
  · intro report before behind hbatches
    rw [bytes_probe, hbatches, List.flatMap_append, List.flatMap_cons, ← List.append_assoc]
    rfl

/-- As many keys as a machine can number, of which fewer are counted, in a time that leaves as
many seconds and nanoseconds over as there can be. -/
def longest : BatchTiming := ⟨2, 2 ^ 64 - 1, ⟨2 ^ 64 - 2, 999999999⟩⟩

/-- What is left over makes up a second but for one nanosecond; the batch before has no key and
counts as one key. -/
theorem perKey_averages_longest :
    longest.elapsed.Normalized ∧ longest.Averages ∧ longest.perKey = ⟨4294967296, 999999999⟩ ∧
      (Outcome.probe ⟨[⟨1, 0, ⟨0, 5999⟩⟩, longest], 0, none, 0⟩).bytes =
        encode (meanLine 1 5) ++ encode (meanLine 2 4294967296999999) ++
          encode "no successful deletions\n" := by
  have hnormalized : longest.elapsed.Normalized := ⟨by decide, by decide⟩
  have haverages := perKey_averages longest hnormalized
  refine ⟨hnormalized, haverages, by decide, ?_⟩
  rw [haverages.printed _ [⟨1, 0, ⟨0, 5999⟩⟩] [] rfl]
  rfl

end ProbeForest.Benchmark.BatchTiming
