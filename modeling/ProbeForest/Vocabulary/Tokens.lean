import ProbeForest.Text.Blank

/-!
# The tokens of prose

Prose is cleaned character by character: ASCII punctuation disappears, ASCII
capitals become small letters, and every other character stays as it is.  The
tokens are the words of what is left.  Punctuation is deleted, not replaced,
so that `don't` is one token and so are two words joined by a full stop.
-/

namespace ProbeForest.Vocabulary

/-- ASCII punctuation: the visible ASCII characters that are neither letters nor digits. -/
def isPunctuation (c : Char) : Bool :=
  '!' ≤ c && c ≤ '~' && !c.isAlphanum

/-- Drops punctuation and lowers capitals, in ASCII only. -/
def clean (text : List Char) : List Char :=
  (text.filter (!isPunctuation ·)).map Char.toLower

/-- The tokens of a text, in order. -/
def tokenize (text : String) : List String :=
  (Text.splitWords (clean text.toList)).map String.ofList

end ProbeForest.Vocabulary
