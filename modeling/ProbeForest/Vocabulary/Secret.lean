import ProbeForest.Vocabulary.Ranking

/-!
# Secrets spelled by ranks

A secret is the concatenation of the words at given ranks, in the order in
which the ranks are given.
-/

namespace ProbeForest.Vocabulary

/-- The ranks that spell the secret of the reference prose. -/
def secretRanks : List Nat := [11, 23, 22, 43, 3, 47]

/-- Why a ranking spells no secret. -/
inductive SecretError where
  /-- The largest rank asked for lies beyond the last word. -/
  | insufficientVocabulary (required available : Nat)
  /-- Rank zero names no word. -/
  | zeroRank
deriving DecidableEq, Repr

namespace SecretError

def message : SecretError → String
  | insufficientVocabulary required available =>
    s!"rank {required} requested but the corpus only has {available} distinct words"
  | zeroRank => "ranks are 1-based; rank 0 is invalid"

/-- The stable name of the cause. -/
def code : SecretError → String
  | insufficientVocabulary _ _ => "FREQUENCY_INSUFFICIENT_VOCABULARY"
  | zeroRank => "FREQUENCY_ZERO_RANK"

end SecretError

namespace Ranking

/-- Every rank names a word of the ranking. -/
def checkRanks (r : Ranking) (ranks : List Nat) : Except SecretError Unit :=
  let required := ranks.foldl max 0
  if 0 ∈ ranks then .error .zeroRank
  else if r.distinct < required then .error (.insufficientVocabulary required r.distinct)
  else .ok ()

/-- The ranks that name a word, each with the entry it names. -/
def selections (r : Ranking) (ranks : List Nat) : List (Nat × WordCount) :=
  ranks.filterMap fun rank => (r.atRank? rank).map (rank, ·)

/-- The words of a list of selections, one after another. -/
def spell (selected : List (Nat × WordCount)) : String :=
  String.join (selected.map (·.2.word))

/-- The words at the ranks, one after another. -/
def secret (r : Ranking) (ranks : List Nat) : Except SecretError String := do
  r.checkRanks ranks
  return spell (r.selections ranks)

end Ranking

end ProbeForest.Vocabulary
