/-!
# Settings that describe no workload

A synthetic workload needs something to make and room to choose from.  Settings
are checked before anything is drawn.
-/

namespace ProbeForest.Synthetic

/-- Why settings describe no synthetic workload. -/
inductive WorkloadError where
  | zeroWords
  | emptyAlphabet
  | zeroWordLength
  | invalidWordLengthRange (least most : Nat)
  /-- Roads were asked for, but no region to join. -/
  | zeroRegions
  | invalidCostRange (least most : Int)
deriving DecidableEq, Repr

def WorkloadError.message : WorkloadError → String
  | zeroWords => "word count must be greater than zero"
  | emptyAlphabet => "word alphabet must not be empty"
  | zeroWordLength => "minimum word length must be greater than zero"
  | invalidWordLengthRange least most => s!"invalid word length range: min={least}, max={most}"
  | zeroRegions => "roads need at least one region to connect"
  | invalidCostRange least most => s!"invalid road cost range: min={least}, max={most}"

end ProbeForest.Synthetic
