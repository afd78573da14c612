import ProbeForest.Vocabulary.Tokens
import Std.Data.HashMap

/-!
# Words ranked by frequency

A ranking lists the distinct tokens, the most frequent first.  Tokens of equal
frequency keep the order in which they first appeared, because the sort is
stable and starts from that order.  Ranks count from one.
-/

namespace ProbeForest.Vocabulary

/-- A distinct word and how often it occurs. -/
structure WordCount where
  word : String
  count : Nat
deriving DecidableEq, Repr

/-- One more occurrence of a word. -/
def WordCount.raise (entry : WordCount) : WordCount := { entry with count := entry.count + 1 }

/-- The words counted so far, in the order of their first appearance, the position of each of
them, and the number of tokens. -/
structure Tally where
  positions : Std.HashMap String Nat
  entries : Array WordCount
  total : Nat

namespace Tally

def empty : Tally := ⟨∅, #[], 0⟩

/-- Counts one more token: a known word has its count raised in place, a new one goes to the
end. -/
def add (tally : Tally) (token : String) : Tally :=
  match tally.positions[token]? with
  | some position =>
      { tally with
        entries := tally.entries.modify position WordCount.raise
        total := tally.total + 1 }
  | none =>
      { positions := tally.positions.insert token tally.entries.size
        entries := tally.entries.push ⟨token, 1⟩
        total := tally.total + 1 }

/-- The tally of a list of tokens. -/
def ofTokens (tokens : List String) : Tally := tokens.foldl add empty

end Tally

/-- Distinct words, most frequent first, and the number of tokens they were counted from. -/
structure Ranking where
  entries : List WordCount
  total : Nat
deriving DecidableEq, Repr

namespace Ranking

/-- Ranks the distinct words of a list of tokens. -/
def ofTokens (tokens : List String) : Ranking :=
  let tally := Tally.ofTokens tokens
  { entries := tally.entries.toList.mergeSort fun a b => b.count ≤ a.count
    total := tally.total }

/-- Ranks the words of prose. -/
def ofText (text : String) : Ranking := ofTokens (tokenize text)

/-- The number of distinct words. -/
def distinct (r : Ranking) : Nat := r.entries.length

/-- The entry at a rank; the first rank is one. -/
def atRank? (r : Ranking) : Nat → Option WordCount
  | 0 => none
  | index + 1 => r.entries[index]?

end Ranking

end ProbeForest.Vocabulary
