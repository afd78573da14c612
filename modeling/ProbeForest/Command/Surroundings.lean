import ProbeForest.Benchmark.Duration
import ProbeForest.Text.Stream

/-!
# What surrounds a command

A command opens files, reads standard input and measures time.  All three are
given to it as data: opening a file yields a stream or a message, and the time
that a batch takes is a function of its number.
-/

namespace ProbeForest.Command

/-- The world as a command meets it. -/
structure Surroundings where
  /-- The stream of a file, or the reason why it cannot be opened. -/
  openFile : String → Except String Text.Stream
  /-- Standard input. -/
  input : Text.Stream
  /-- The time that a batch takes, by its number. -/
  elapsed : Nat → Benchmark.Duration

end ProbeForest.Command
