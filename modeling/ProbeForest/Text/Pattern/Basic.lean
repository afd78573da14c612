import ProbeForest.Text.Blank
import ProbeForest.Text.DecimalDigit
import ProbeForest.Text.WordCharacter

/-!
# Patterns

A pattern describes texts.  Where it leaves a choice, the choices have an
order: the first alternative before the second, another round of a greedy
repetition before its end, and the end of a lazy repetition before another
round.  `ends` lists the spots at which a match that begins at a given spot
may end, each once, in that order.

A pattern *covers* a text if the match that it prefers among those that begin
at the start of the text ends at its end.  So `a|ab` does not cover `ab`: it
prefers the match `a`.
-/

namespace ProbeForest.Text

/-- A set of characters. -/
inductive CharSet where
  | nothing
  /-- The characters from one to another. -/
  | interval (first last : Char)
  | decimalDigit
  | wordCharacter
  | blank
  /-- The characters of a set, with the other case of ASCII letters in it. -/
  | anyCase (set : CharSet)
  | complement (set : CharSet)
  | union (left right : CharSet)
  | intersection (left right : CharSet)
deriving DecidableEq, Repr

namespace CharSet

def single (c : Char) : CharSet := .interval c c

def everything : CharSet := .complement .nothing

def difference (left right : CharSet) : CharSet := .intersection left (.complement right)

def ofList (members : List Char) : CharSet :=
  members.foldr (fun c set => .union (single c) set) .nothing

def contains : CharSet → Char → Bool
  | nothing, _ => false
  | interval first last, c => first ≤ c && c ≤ last
  | decimalDigit, c => isDecimalDigit c
  | wordCharacter, c => isWordCharacter c
  | blank, c => isBlank c
  | anyCase set, c => set.contains c || set.contains c.toLower || set.contains c.toUpper
  | complement set, c => !set.contains c
  | union left right, c => left.contains c || right.contains c
  | intersection left right, c => left.contains c && right.contains c

end CharSet

/-- A spot between two characters of a text. -/
structure Spot where
  /-- The character in front of the spot, unless it is the start of the text. -/
  before : Option Char
  rest : List Char
deriving DecidableEq, Repr

/-- A condition on a spot. -/
inductive Anchor where
  | textStart
  | textEnd
  | lineStart
  | lineEnd
deriving DecidableEq, Repr

namespace Anchor

def holdsAt : Anchor → Spot → Bool
  | textStart, s => s.before.isNone
  | textEnd, s => s.rest.isEmpty
  | lineStart, s => s.before.isNone || s.before == some '\n'
  | lineEnd, s => s.rest.isEmpty || s.rest.head? == some '\n'

end Anchor

/-- A description of texts. -/
inductive Pattern where
  | empty
  /-- One character of a set. -/
  | one (set : CharSet)
  | anchor (anchor : Anchor)
  | sequence (first second : Pattern)
  | choice (first second : Pattern)
  | optional (body : Pattern) (greedy : Bool)
  /-- Any number of rounds. -/
  | repeated (body : Pattern) (greedy : Bool)
deriving DecidableEq, Repr

/-- Puts more rounds before the end of a greedy repetition, and after that of a lazy one. -/
def arrange (greedy : Bool) (more : List Spot) (spot : Spot) : List Spot :=
  (if greedy then more ++ [spot] else spot :: more).eraseDups

/-- The ends of a repetition of at most `rounds` rounds.  A round that takes
nothing is the last one. -/
def iterate (body : Spot → List Spot) (greedy : Bool) : (rounds : Nat) → Spot → List Spot
  | 0, spot => [spot]
  | rounds + 1, spot =>
    let more := (body spot).flatMap fun next =>
      if next.rest.length < spot.rest.length then iterate body greedy rounds next else [next]
    arrange greedy more spot

namespace Pattern

/-- The spots at which a match from a spot may end, each once, the preferred one first. -/
def ends : Pattern → Spot → List Spot
  | empty, spot => [spot]
  | one set, ⟨_, rest⟩ =>
    match rest with
    | [] => []
    | c :: rest => if set.contains c then [⟨some c, rest⟩] else []
  | anchor a, spot => if a.holdsAt spot then [spot] else []
  | sequence first second, spot => ((first.ends spot).flatMap second.ends).eraseDups
  | choice first second, spot => (first.ends spot ++ second.ends spot).eraseDups
  | optional body greedy, spot => arrange greedy (body.ends spot) spot
  | repeated body greedy, spot => iterate body.ends greedy spot.rest.length spot

/-- The preferred match from the start of a text ends at its end. -/
def covers (p : Pattern) (text : String) : Bool :=
  match p.ends ⟨none, text.toList⟩ with
  | [] => false
  | spot :: _ => spot.rest.isEmpty

end Pattern

end ProbeForest.Text
