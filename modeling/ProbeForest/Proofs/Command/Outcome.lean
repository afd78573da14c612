import ProbeForest.Command.Outcome
import ProbeForest.Proofs.Text.Sink

/-!
# Outcomes in sinks with limited room

An outcome is written text by text: the parts of the line of every batch, then
those of the last line.  Which texts these are is stated without a sink, so
that writing an outcome is writing its texts and everything about limits is a
fact about sinks.  A sink with limited room gets the leading bytes of the
outcome, whether the room ends between two lines, between two texts of a line
or inside a text.

## Main results

* `write_eq_putAll` — an outcome is written text by text.
* `bytes_eq` — the output of an outcome is the bytes of its texts.
* `write_truncates` — what a sink with room for some bytes gets of it.
-/

namespace ProbeForest.Command.Outcome

open Text (Sink encode)
open Text.Sink (ofRoom put putAll)

/-! ## Texts -/

/-- The texts of the line of a batch. -/
def batchTexts (t : Benchmark.BatchTiming) : List String :=
  ["average time for batch ", toString t.batch, " is ", toString t.perKey.toMicros, " us\n"]

/-- The texts of the line of statistics. -/
def statsTexts : Option Benchmark.ProbeStats → List String
  | none => ["no successful deletions\n"]
  | some stats =>
    ["min: ", toString stats.least, " max: ", toString stats.most, " average: ",
      stats.mean.fixed meanPlaces, "\n"]

/-- The texts of an outcome, in the order in which they are written. -/
def texts : Outcome → List String
  | secret text => [text, "\n"]
  | probe report => report.batches.flatMap batchTexts ++ statsTexts report.stats
  | connect plan => [toString plan.total, " ", toString plan.remaining, "\n"]

theorem writeBatch_eq_putAll (t : Benchmark.BatchTiming) :
    writeBatch t = putAll (batchTexts t) := by
  simp [writeBatch, putAll, batchTexts]

theorem writeStats_eq_putAll (stats : Option Benchmark.ProbeStats) :
    writeStats stats = putAll (statsTexts stats) := by
  cases stats <;> simp [writeStats, putAll, statsTexts]

/-- An outcome is written text by text. -/
theorem write_eq_putAll (o : Outcome) : o.write = putAll o.texts := by
  cases o with
  | secret text => simp [write, texts, putAll]
  | connect plan => simp [write, texts, putAll]
  | probe report =>
      rw [texts, Sink.putAll_append, Sink.putAll_flatMap, ← writeStats_eq_putAll]
      simp only [← writeBatch_eq_putAll]
      rfl

/-- The output of an outcome is the bytes of its texts. -/
theorem bytes_eq (o : Outcome) : o.bytes = o.texts.flatMap encode := by
  show (o.write.run (ofRoom none)).2.written.toList = _
  rw [write_eq_putAll, Sink.run_putAll, Sink.written_take_of_unlimited]

/-! ## Limits -/

/-- What a sink with room for `limit` bytes gets of an outcome. -/
structure Truncates (o : Outcome) (limit : Nat) : Prop where
  /-- Without a limit the outcome is written as a whole. -/
  unlimited : (o.writeTo none).1 = .ok ()
  /-- The sink gets the leading bytes, as many as fit. -/
  written : (o.writeTo (some limit)).2 = o.bytes.take (min limit o.bytes.length)
  /-- Writing fails exactly if these are not all. -/
  fails_iff : (o.writeTo (some limit)).1 = .error ⟨⟩ ↔ limit < o.bytes.length
  /-- If it fails, all texts before some text have been written, this text is the first one that
  fails, and it is the last one that the sink is asked to take. -/
  stops : limit < o.bytes.length → ∃ before text behind reached final,
    o.texts = before ++ text :: behind ∧
      (putAll before).run (ofRoom (some limit)) = (.ok (), reached) ∧
      (put text).run reached = (.error ⟨⟩, final) ∧
      o.write.run (ofRoom (some limit)) = (.error ⟨⟩, final)

/-- Every outcome is written text by text, and a sink with room for any number of bytes gets
exactly its leading bytes, with a failure exactly if some are left over; after the first text that
fails nothing is written. -/
theorem write_truncates (o : Outcome) (limit : Nat) :
    o.write = putAll o.texts ∧ Truncates o limit := by
  have hwrite := write_eq_putAll o
  have hrun : o.write.run (ofRoom (some limit)) = (ofRoom (some limit)).take o.bytes := by
    rw [hwrite, Sink.run_putAll, bytes_eq]
  obtain ⟨hwritten, hfails⟩ := Sink.take_ofRoom limit o.bytes
  rw [← hrun] at hwritten hfails
  refine ⟨hwrite, ?_, ?_, hfails, ?_⟩
  · show (o.write.run (ofRoom none)).1 = _
    rw [hwrite, Sink.run_putAll]
    rfl
  · show (o.write.run (ofRoom (some limit))).2.written.toList = _
    rw [hwritten, ← List.take_eq_take_min]
  · intro hlimit
    obtain ⟨final, hfailed⟩ : ∃ final, o.write.run (ofRoom (some limit)) = (.error ⟨⟩, final) :=
      ⟨_, Prod.ext (hfails.mpr hlimit) rfl⟩
    obtain ⟨before, text, behind, reached, htexts, hbefore, htext⟩ :=
      Sink.exists_of_run_putAll_eq_error (hwrite ▸ hfailed)
    exact ⟨before, text, behind, reached, final, htexts, hbefore, htext, hfailed⟩

end ProbeForest.Command.Outcome
