/-!
# Disjoint sets

Union-find over the indices below a fixed size, with full path compression and
union by rank.  `root` follows parents upward; `find` then points every node
of the path at the root.  When two trees of equal rank are merged the left
root stays a root and its rank grows; ranks stop growing at 255.

The operations on the structure itself are total.  `Query` is the checked
surface: an index that is out of range is an error, and the work done before
the error was met stays done.
-/

namespace ProbeForest

/-- Disjoint sets over `0 .. size - 1`. -/
structure DisjointSet where
  parent : Array Nat
  rank : Array Nat
  components : Nat
deriving DecidableEq, Repr

namespace DisjointSet

/-- The largest rank that is recorded. -/
def maxRank : Nat := 255

/-- Singletons only. -/
def singletons (size : Nat) : DisjointSet :=
  ⟨Array.range size, Array.replicate size 0, size⟩

/-- The number of elements. -/
def size (s : DisjointSet) : Nat := s.parent.size

/-- The parent of a node; an index out of range is its own parent. -/
def parentOf (s : DisjointSet) (node : Nat) : Nat := s.parent.getD node node

/-- Follows parents for at most `fuel` steps, until a node is its own parent. -/
def rootWithin (s : DisjointSet) : (fuel : Nat) → (node : Nat) → Nat
  | 0, node => node
  | fuel + 1, node =>
    let up := s.parentOf node
    if up = node then node else s.rootWithin fuel up

/-- The root of the tree of a node.  A path has fewer steps than there are elements. -/
def root (s : DisjointSet) (node : Nat) : Nat := s.rootWithin s.size node

/-- Points a node at a new parent. -/
def repoint : DisjointSet → (node up : Nat) → DisjointSet
  | ⟨parent, rank, components⟩, node, up => ⟨parent.setIfInBounds node up, rank, components⟩

/-- Points a node at the given root, then the node that was its parent, and so
on, until a node points there already. -/
def compressWithin (root : Nat) : (fuel : Nat) → (node : Nat) → DisjointSet → DisjointSet
  | 0, _, s => s
  | fuel + 1, node, s =>
    let up := s.parentOf node
    if up = root then s
    else compressWithin root fuel up (s.repoint node root)

/-- The root of a node, and the sets with the path to it compressed. -/
def find (s : DisjointSet) (node : Nat) : Nat × DisjointSet :=
  let root := s.root node
  (root, compressWithin root s.size node s)

/-- Makes the root `child` a child of the root `winner`, whose rank grows if the ranks were equal. -/
def attach : DisjointSet → (winner child : Nat) → (ranksEqual : Bool) → DisjointSet
  | ⟨parent, rank, components⟩, winner, child, ranksEqual =>
    let grown := min maxRank (rank.getD winner 0 + 1)
    ⟨parent.setIfInBounds child winner,
      if ranksEqual then rank.setIfInBounds winner grown else rank, components - 1⟩

/-- Merges the trees of two roots, and says whether they were different. -/
def link (s : DisjointSet) (left right : Nat) : Bool × DisjointSet :=
  if left = right then (false, s)
  else
    let leftRank := s.rank.getD left 0
    let rightRank := s.rank.getD right 0
    if leftRank < rightRank then (true, s.attach right left false)
    else (true, s.attach left right (leftRank == rightRank))

/-- Merges the sets of two elements, and says whether they were different. -/
def union (s : DisjointSet) (left right : Nat) : Bool × DisjointSet :=
  let (leftRoot, s) := s.find left
  let (rightRoot, s) := s.find right
  s.link leftRoot rightRoot

/-! ## Checked operations -/

/-- An index at or beyond the number of elements. -/
structure OutOfRange where
  size : Nat
  index : Nat
deriving DecidableEq, Repr

def OutOfRange.message (e : OutOfRange) : String :=
  s!"index out of bounds: the len is {e.size} but the index is {e.index}"

/-- An operation on disjoint sets that may meet an index out of range. -/
abbrev Query := ExceptT OutOfRange (StateM DisjointSet)

namespace Query

/-- The root of an element. -/
def find (node : Nat) : Query Nat := do
  let size := (← get).size
  if node < size then modifyGet (·.find node) else throw ⟨size, node⟩

/-- Merges the sets of two elements, and says whether they were different. -/
def union (left right : Nat) : Query Bool := do
  let leftRoot ← find left
  let rightRoot ← find right
  modifyGet (·.link leftRoot rightRoot)

/-- Whether two elements are in one set. -/
def connected (left right : Nat) : Query Bool := do
  let leftRoot ← find left
  let rightRoot ← find right
  return leftRoot == rightRoot

end Query

end DisjointSet

end ProbeForest
