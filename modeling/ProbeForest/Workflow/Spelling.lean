import ProbeForest.Workflow.Described

/-!
# Spelling a secret under watch

The span carries the ranks, the number of distinct words and the number of
tokens; every word that is selected is an event.
-/

namespace ProbeForest.Workflow

open Journal (emit span)
open Vocabulary (Ranking SecretError)

/-- The target of diagnostics about word frequencies. -/
def frequencyTarget : String := "katsuo_core::frequency"

/-- Numbers between brackets. -/
def listText (numbers : List Nat) : String :=
  "[" ++ ", ".intercalate (numbers.map toString) ++ "]"

/-- The secret that ranks spell. -/
def secret (ranking : Ranking) (ranks : List Nat) : FallibleRecording SecretError String :=
  span
    { name := "frequency.extract_secret"
      target := frequencyTarget
      fields :=
        [("ranks", some (.shown (listText ranks))), ("distinct", some (.natural ranking.distinct)),
          ("tokens", some (.natural ranking.total))] }
    do
      ranking.checkRanks ranks
      let selected := ranking.selections ranks
      for (rank, entry) in selected do
        emit .debug frequencyTarget "selected word"
          [("rank", .natural rank), ("word", .text entry.word), ("count", .natural entry.count)]
      return Ranking.spell selected

end ProbeForest.Workflow
