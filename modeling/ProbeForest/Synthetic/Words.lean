import ProbeForest.Random.Uniform
import ProbeForest.Synthetic.Error

/-!
# Synthetic words

Words of random length with letters drawn from an alphabet.  A short alphabet
makes the first bytes of words repeat, and crowds them on few home slots.  The
*absent variant* of a word ends in a marker that the alphabet lacks: it shares
the beginning of the word but equals no word of the workload.
-/

namespace ProbeForest.Synthetic

open ProbeForest.Random (Draw Generator)

/-- What synthetic words look like. -/
structure WordConfig where
  wordCount : Nat
  minLength : Nat
  maxLength : Nat
  /-- The characters that words are made of; a repeated one is drawn more often. -/
  alphabet : List Char
  seed : UInt64

/-- Synthetic words and the alphabet they were made from. -/
structure Words where
  words : List String
  alphabet : List Char
deriving DecidableEq, Repr

namespace WordConfig

/-- The settings describe words. -/
def check (c : WordConfig) : Except WorkloadError Unit :=
  if c.wordCount = 0 then .error .zeroWords
  else if c.alphabet = [] then .error .emptyAlphabet
  else if c.minLength = 0 then .error .zeroWordLength
  else if c.maxLength < c.minLength then
    .error (.invalidWordLengthRange c.minLength c.maxLength)
  else .ok ()

/-- Draws a letter. -/
def letter (alphabet : Array Char) : Draw Char := do
  let index ← Random.pick alphabet.size
  return alphabet.getD index 'A'

/-- Draws a word: its length, and then its letters. -/
def word (c : WordConfig) (alphabet : Array Char) : Draw String := do
  let length ← Random.wordBetween .full c.minLength c.maxLength
  let letters ← (List.replicate length ()).mapM fun _ => letter alphabet
  return String.ofList letters

/-- Draws all words. -/
def words (c : WordConfig) : Draw (List String) :=
  let alphabet := c.alphabet.toArray
  (List.replicate c.wordCount ()).mapM fun _ => c.word alphabet

end WordConfig

namespace Words

/-- The words that settings describe; none if a draw never ends. -/
def generate (c : WordConfig) : Except WorkloadError (Option Words) := do
  c.check
  return (c.words.run (Generator.ofSeed c.seed)).map fun (words, _) => ⟨words, c.alphabet⟩

/-- The characters that may mark a variant, in order of preference. -/
def markers : List Char := "ABCDEFGHIJKLMNOPQRSTUVWXYZ0123456789".toList

/-- The word at an index with a marker that the alphabet lacks. -/
def absentVariant? (w : Words) (index : Nat) : Option String := do
  let word ← w.words[index]?
  let marker ← markers.find? fun c => !w.alphabet.contains c
  return word.push marker

end Words

end ProbeForest.Synthetic
