import ProbeForest.Text.Alphanumeric
import ProbeForest.Text.Pattern.Basic

/-!
# Reading patterns

Most characters of a written pattern stand for themselves.

* `.` is any character but a line feed; `^` and `$` are the start and the end of the text.
* `[abx-z]` is a set, `[^abx-z]` its complement.  Sets may be nested, and joined by
  `&&`, `--` and `~~` to intersections, differences and symmetric differences.
* `\d`, `\s` and `\w` are digits, blanks and word characters, their capitals the complements;
  a backslash takes its meaning from a punctuation mark.
* `p|q` is a choice, `p*`, `p+` and `p?` are repetitions, greedy ones without another `?`.
* `(p)` and `(?<name>p)` are groups; `(?flags)` sets flags up to the end of the group around it,
  and `(?flags:p)` for `p` alone.  Flags are `i` (case of ASCII letters does not matter), `m`
  (anchors hold at lines), `s` (`.` is any character), `U` (greedy and lazy change places), and
  behind a dash those that are taken back.

Counted repetitions, word boundaries, general categories and flags that change
what blanks or characters are have no reading here.

The readers take what is left of the pattern and return what is left after
them.  They call each other in circles, on less text each time; `fuel` bounds
the depth, and the length of the text suffices.
-/

namespace ProbeForest.Text

/-- How the letters of a pattern are to be taken. -/
structure PatternFlags where
  anyCase : Bool := false
  lines : Bool := false
  dotAll : Bool := false
  swapGreed : Bool := false
deriving DecidableEq, Repr

namespace PatternReader

/-! ## Single characters -/

/-- The value of a hexadecimal digit. -/
def hexDigit? (c : Char) : Option Nat :=
  if c.isDigit then some (c.toNat - '0'.toNat)
  else if 'a' ≤ c.toLower ∧ c.toLower ≤ 'f' then some (c.toLower.toNat - 'a'.toNat + 10)
  else none

/-- The character whose number stands in so many hexadecimal digits. -/
def numbered? (digits : Nat) (cs : List Char) : Option (Char × List Char) := do
  let written := cs.take digits
  if written.length < digits then none
  let n ← written.foldlM (fun n c => (hexDigit? c).map (16 * n + ·)) 0
  if n.isValidChar then return (Char.ofNat n, cs.drop digits) else none

/-- The character that a letter behind a backslash stands for. -/
def control? : Char → Option Char
  | 'a' => some '\x07'
  | 'f' => some '\x0c'
  | 't' => some '\t'
  | 'n' => some '\n'
  | 'r' => some '\r'
  | 'v' => some '\x0b'
  | _ => none

/-- The set that a letter behind a backslash stands for. -/
def shorthand? : Char → Option CharSet
  | 'd' => some .decimalDigit
  | 'D' => some (.complement .decimalDigit)
  | 's' => some .blank
  | 'S' => some (.complement .blank)
  | 'w' => some .wordCharacter
  | 'W' => some (.complement .wordCharacter)
  | _ => none

/-- A backslash makes the punctuation mark stand for itself. -/
def isEscapable (c : Char) : Bool :=
  c.toNat < 0x80 && !c.isAlphanum && c != '<' && c != '>'

/-- The character that is written behind a backslash. -/
def escapedChar? : List Char → Option (Char × List Char)
  | 'x' :: cs => numbered? 2 cs
  | 'u' :: cs => numbered? 4 cs
  | 'U' :: cs => numbered? 8 cs
  | c :: cs => (if isEscapable c then some c else control? c).map (·, cs)
  | [] => none

/-! ## Sets -/

/-- The sets that have names. -/
def namedSet? : String → Option CharSet
  | "alnum" => some (.union (.interval '0' '9') letters)
  | "alpha" => some letters
  | "ascii" => some (.interval '\x00' '\x7f')
  | "blank" => some (.ofList ['\t', ' '])
  | "cntrl" => some (.union (.interval '\x00' '\x1f') (.single '\x7f'))
  | "digit" => some (.interval '0' '9')
  | "graph" => some (.interval '!' '~')
  | "lower" => some (.interval 'a' 'z')
  | "print" => some (.interval ' ' '~')
  | "punct" => some (.difference (.interval '!' '~') (.union (.interval '0' '9') letters))
  | "space" => some (.union (.interval '\t' '\r') (.single ' '))
  | "upper" => some (.interval 'A' 'Z')
  | "word" => some (.union (.union (.interval '0' '9') letters) (.single '_'))
  | "xdigit" =>
    some (.union (.interval '0' '9') (.union (.interval 'A' 'F') (.interval 'a' 'f')))
  | _ => none
where
  letters : CharSet := .union (.interval 'A' 'Z') (.interval 'a' 'z')

/-- The named set whose name and end are left. -/
def namedMember? (cs : List Char) : Option (CharSet × List Char) :=
  let (negated, cs) := match cs with
    | '^' :: cs => (true, cs)
    | cs => (false, cs)
  match cs.dropWhile (· != ':') with
  | ':' :: ']' :: rest =>
    (namedSet? (String.ofList (cs.takeWhile (· != ':')))).map fun set =>
      (if negated then .complement set else set, rest)
  | _ => none

/-- A member of a set: a character or a shorthand. -/
def member? : List Char → Option ((Char ⊕ CharSet) × List Char)
  | '\\' :: cs =>
    match cs with
    | c :: rest =>
      match shorthand? c with
      | some set => some (.inr set, rest)
      | none => (escapedChar? cs).map fun (c, rest) => (.inl c, rest)
    | [] => none
  | c :: cs => some (.inl c, cs)
  | [] => none

/-- A member of a set, or all characters from one to another. -/
def interval? (cs : List Char) : Option (CharSet × List Char) := do
  let (first, rest) ← member? cs
  match first, rest with
  | .inl c, '-' :: next :: rest' =>
    if next = ']' ∨ next = '-' then return (.single c, rest)
    match ← member? (next :: rest') with
    | (.inl last, rest) => if c ≤ last then return (.interval c last, rest) else none
    | (.inr _, _) => none
  | .inl c, _ => return (.single c, rest)
  | .inr set, '-' :: next :: _ =>
    if next = ']' ∨ next = '-' then return (set, rest) else none
  | .inr set, _ => return (set, rest)

/-- How two sets are joined. -/
def join? : List Char → Option ((CharSet → CharSet → CharSet) × List Char)
  | '&' :: '&' :: cs => some (.intersection, cs)
  | '-' :: '-' :: cs => some (.difference, cs)
  | '~' :: '~' :: cs =>
    some (fun a b => .union (.difference a b) (.difference b a), cs)
  | _ => none

/-- Dashes at the start of a set stand for themselves. -/
def leadingDashes (cs : List Char) : CharSet × List Char :=
  let dashes := cs.takeWhile (· == '-')
  (.ofList dashes, cs.dropWhile (· == '-'))

/-- A bracket at the start of a set, behind its dashes, stands for itself. -/
def leadingMembers (cs : List Char) : CharSet × List Char :=
  match leadingDashes cs with
  | (.nothing, ']' :: cs) => (.single ']', cs)
  | found => found

mutual

/-- Reads the rest of a set, behind its opening bracket. -/
def readSet (fuel : Nat) (anyCase : Bool) (cs : List Char) : Option (CharSet × List Char) :=
  match fuel with
  | 0 => none
  | fuel + 1 => do
    let (negated, cs) := match cs with
      | '^' :: cs => (true, cs)
      | cs => (false, cs)
    let (members, cs) := leadingMembers cs
    let (set, rest) ← readMembers fuel anyCase none members cs
    let set := if anyCase then .anyCase set else set
    return (if negated then .complement set else set, rest)

/-- Reads the members of a set up to its closing bracket.  `joined` is what
stands to the left of the members and waits to be joined with them. -/
def readMembers (fuel : Nat) (anyCase : Bool) (joined : Option (CharSet → CharSet))
    (members : CharSet) (cs : List Char) : Option (CharSet × List Char) :=
  match fuel with
  | 0 => none
  | fuel + 1 =>
    let whole := (joined.getD id) members
    match cs, join? cs with
    | [], _ => none
    | ']' :: cs, _ => some (whole, cs)
    | _, some (join, cs) => readMembers fuel anyCase (some (join whole)) .nothing cs
    | '[' :: ':' :: cs, none =>
      match namedMember? cs with
      | some (set, cs) => readMembers fuel anyCase joined (.union members set) cs
      | none => do
        let (set, cs) ← readSet fuel anyCase (':' :: cs)
        readMembers fuel anyCase joined (.union members set) cs
    | '[' :: cs, none => do
      let (set, cs) ← readSet fuel anyCase cs
      readMembers fuel anyCase joined (.union members set) cs
    | cs, none => do
      let (set, cs) ← interval? cs
      readMembers fuel anyCase joined (.union members set) cs

end

/-! ## Flags and names -/

/-- Sets a flag, or takes it back. -/
def setFlag? (flags : PatternFlags) (value : Bool) : Char → Option PatternFlags
  | 'i' => some { flags with anyCase := value }
  | 'm' => some { flags with lines := value }
  | 's' => some { flags with dotAll := value }
  | 'U' => some { flags with swapGreed := value }
  | 'u' => if value then some flags else none
  | 'x' => if value then none else some flags
  | _ => none

/-- Reads flags up to a colon or a closing bracket.  No flag may stand twice,
and behind a dash there is at least one. -/
def readFlags (flags : PatternFlags) (value : Bool) (seen : List Char) :
    List Char → Option (PatternFlags × List Char)
  | [] => none
  | c :: cs =>
    if c = ':' ∨ c = ')' then
      if seen.head? = some '-' then none else some (flags, c :: cs)
    else if c ∈ seen then none
    else if c = '-' then readFlags flags false (c :: seen) cs
    else
      match setFlag? flags value c with
      | some flags => readFlags flags value (c :: seen) cs
      | none => none

/-- The character may begin the name of a group. -/
def startsName (c : Char) : Bool := c == '_' || (isAlphanumeric c && !isDecimalDigit c)

/-- The character may stand in the name of a group. -/
def isInName (c : Char) : Bool := isAlphanumeric c || ['_', '.', '[', ']'].contains c

/-- Passes over the name of a group and the bracket behind it. -/
def skipName? (cs : List Char) : Option (List Char) :=
  match cs, cs.dropWhile isInName with
  | first :: _, '>' :: rest => if startsName first then some rest else none
  | _, _ => none

/-! ## Patterns -/

/-- A character that stands for itself. -/
def literal (flags : PatternFlags) (c : Char) : Pattern :=
  .one (if flags.anyCase then .anyCase (.single c) else .single c)

/-- What a backslash begins. -/
def readEscape (flags : PatternFlags) (cs : List Char) : Option (Pattern × List Char) :=
  match cs with
  | 'A' :: cs => some (.anchor .textStart, cs)
  | 'z' :: cs => some (.anchor .textEnd, cs)
  | c :: rest =>
    match shorthand? c with
    | some set => some (.one set, rest)
    | none => (escapedChar? cs).map fun (c, rest) => (literal flags c, rest)
  | [] => none

/-- Reads the repetitions behind a pattern. -/
def readRepetitions (flags : PatternFlags) (p : Pattern) :
    List Char → Option (Pattern × List Char)
  | '*' :: '?' :: cs => readRepetitions flags (.repeated p flags.swapGreed) cs
  | '*' :: cs => readRepetitions flags (.repeated p (!flags.swapGreed)) cs
  | '+' :: '?' :: cs => readRepetitions flags (.sequence p (.repeated p flags.swapGreed)) cs
  | '+' :: cs => readRepetitions flags (.sequence p (.repeated p (!flags.swapGreed))) cs
  | '?' :: '?' :: cs => readRepetitions flags (.optional p flags.swapGreed) cs
  | '?' :: cs => readRepetitions flags (.optional p (!flags.swapGreed)) cs
  | '\x7b' :: _ => none
  | cs => some (p, cs)

mutual

/-- Reads a pattern up to the end of the group around it. -/
def readChoice (fuel : Nat) (flags : PatternFlags) (cs : List Char) :
    Option (Pattern × List Char) :=
  match fuel with
  | 0 => none
  | fuel + 1 => do
    match ← readSequence fuel flags .empty cs with
    | (first, flags, '|' :: cs) =>
      let (second, cs) ← readChoice fuel flags cs
      return (.choice first second, cs)
    | (first, _, cs) => return (first, cs)

/-- Reads one alternative behind what is read of it.  Flags that it sets hold
for the alternatives to its right. -/
def readSequence (fuel : Nat) (flags : PatternFlags) (before : Pattern) (cs : List Char) :
    Option (Pattern × PatternFlags × List Char) :=
  match fuel with
  | 0 => none
  | fuel + 1 =>
    match cs with
    | [] => some (before, flags, [])
    | '(' :: '?' :: cs => do
      match ← readSpecialGroup fuel flags cs with
      | (.inl flags, cs) =>
        if cs.head?.any ['*', '+', '?', '\x7b'].contains then none
        else readSequence fuel flags before cs
      | (.inr p, cs) =>
        let (p, cs) ← readRepetitions flags p cs
        readSequence fuel flags (.sequence before p) cs
    | c :: rest =>
      if c = '|' ∨ c = ')' then some (before, flags, c :: rest)
      else do
        let (p, cs) ← readAtom fuel flags c rest
        let (p, cs) ← readRepetitions flags p cs
        readSequence fuel flags (.sequence before p) cs

/-- Reads a group behind its question mark: new flags, or a pattern. -/
def readSpecialGroup (fuel : Nat) (flags : PatternFlags) (cs : List Char) :
    Option ((PatternFlags ⊕ Pattern) × List Char) :=
  match fuel with
  | 0 => none
  | fuel + 1 =>
    match cs with
    | 'P' :: '<' :: cs | '<' :: cs => do
      let (p, cs) ← readGroup fuel flags (← skipName? cs)
      return (.inr p, cs)
    | ')' :: _ => none
    | cs => do
      match ← readFlags flags true [] cs with
      | (flags, ')' :: cs) => return (.inl flags, cs)
      | (flags, cs) =>
        let (p, cs) ← readGroup fuel flags (cs.drop 1)
        return (.inr p, cs)

/-- Reads a group up to its closing bracket. -/
def readGroup (fuel : Nat) (flags : PatternFlags) (cs : List Char) :
    Option (Pattern × List Char) :=
  match fuel with
  | 0 => none
  | fuel + 1 => do
    match ← readChoice fuel flags cs with
    | (p, ')' :: cs) => return (p, cs)
    | _ => none

/-- Reads what a character begins. -/
def readAtom (fuel : Nat) (flags : PatternFlags) (c : Char) (cs : List Char) :
    Option (Pattern × List Char) :=
  match fuel with
  | 0 => none
  | fuel + 1 =>
    match c with
    | '*' | '+' | '?' | '\x7b' => none
    | '(' => readGroup fuel flags cs
    | '[' => (readSet fuel flags.anyCase cs).map fun (set, cs) => (.one set, cs)
    | '\\' => readEscape flags cs
    | '.' => some (.one (if flags.dotAll then .everything else .complement (.single '\n')), cs)
    | '^' => some (.anchor (if flags.lines then .lineStart else .textStart), cs)
    | '$' => some (.anchor (if flags.lines then .lineEnd else .textEnd), cs)
    | c => some (literal flags c, cs)

end

end PatternReader

/-- Reads a pattern.  Every character of it takes at most four calls in a row. -/
def Pattern.parse? (text : String) : Option Pattern :=
  match PatternReader.readChoice (4 * (text.length + 1)) {} text.toList with
  | some (p, []) => some p
  | _ => none

end ProbeForest.Text
