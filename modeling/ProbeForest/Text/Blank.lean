/-!
# Blank characters and the words between them

A *blank* is a character with the Unicode property `White_Space`.  The
*words* of a text are its maximal runs of other characters, in the order in
which they stand.  How wide the gaps are, and where a line ends, has no
influence on the words.

The scan carries the word that is still open, written backwards, and the
words already closed, last one first; `words` reads both the right way round.
-/

namespace ProbeForest.Text

/-- The 25 characters with the Unicode property `White_Space`. -/
def isBlank (c : Char) : Bool :=
  let n := c.toNat
  (0x09 ≤ n && n ≤ 0x0D) || n == 0x20 || n == 0x85 || n == 0xA0 || n == 0x1680
    || (0x2000 ≤ n && n ≤ 0x200A) || n == 0x2028 || n == 0x2029 || n == 0x202F
    || n == 0x205F || n == 0x3000

/-- Closes the open word, unless no character of it has been seen. -/
def closeWord (current : List Char) (closed : List (List Char)) : List (List Char) :=
  if current.isEmpty then closed else current.reverse :: closed

/-- Splits the rest of a text, given the open word and the closed ones. -/
def scanWords (current : List Char) (closed : List (List Char)) :
    List Char → List (List Char)
  | [] => (closeWord current closed).reverse
  | c :: rest =>
    if isBlank c then scanWords [] (closeWord current closed) rest
    else scanWords (c :: current) closed rest

/-- The words of a list of characters. -/
def splitWords (text : List Char) : List (List Char) :=
  scanWords [] [] text

/-- The words of a text. -/
def words (text : String) : List String :=
  (splitWords text.toList).map String.ofList

/-- A text without the blanks at its two ends. -/
def trimBlanks (text : List Char) : List Char :=
  ((text.dropWhile isBlank).reverse.dropWhile isBlank).reverse

end ProbeForest.Text
