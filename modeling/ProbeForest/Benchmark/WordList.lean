import ProbeForest.Text.Blank
import ProbeForest.Text.Stream

/-!
# Word lists

A word list is read line by line, and the words of each line are added to
those of the lines before it.
-/

namespace ProbeForest.Benchmark

/-- The words of a stream, last one first, given those of the lines before. -/
def addLine (found : List String) (line : String) : List String :=
  (Text.words line).reverse ++ found

/-- Reads the words of a stream. -/
def readWords (s : Text.Stream) : Except Text.ReadError (List String) := do
  return (← s.foldLines addLine []).reverse

end ProbeForest.Benchmark
