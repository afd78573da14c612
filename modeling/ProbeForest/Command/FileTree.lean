import ProbeForest.Text.Stream

/-!
# Trees of files

A tree of files and directories stands in for a file system.  A path is
followed name by name from the working directory, and refused for the same
reasons, in the same order, as the system would refuse it.  What lies above
the working directory is not part of the tree.
-/

namespace ProbeForest.Command

/-- Why the system refuses a path. -/
inductive PathError where
  | notFound
  | notDirectory
  | isDirectory
  | nameTooLong
  /-- The path contains the character that ends paths. -/
  | embeddedNul
deriving DecidableEq, Repr

def PathError.message : PathError → String
  | notFound => "No such file or directory (os error 2)"
  | notDirectory => "Not a directory (os error 20)"
  | isDirectory => "Is a directory (os error 21)"
  | nameTooLong => "File name too long (os error 36)"
  | embeddedNul => "file name contained an unexpected NUL byte"

/-- What a path leads to. -/
inductive Node where
  | file (bytes : List UInt8)
  | directory
deriving DecidableEq, Repr

/-- Files and directories below the working directory, by the names that lead
to them.  Every directory that leads to an entry exists. -/
abbrev FileTree := List (List String × Node)

/-- The names of a path; a single dot or nothing between two slashes names the same place. -/
def pathNames (path : String) : List String :=
  ((path.toList.foldr split [[]]).map String.ofList)
where
  split (c : Char) : List (List Char) → List (List Char)
    | [] => [[c]]
    | name :: names => if c = '/' then [] :: name :: names else (c :: name) :: names

/-- A name stands for the place itself. -/
def isIdle (name : String) : Bool := name == "" || name == "."

/-- A place that a path has reached. -/
inductive Place where
  | file (bytes : List UInt8)
  /-- A directory of the tree. -/
  | inside (names : List String)
  /-- A directory above the working directory, of which nothing is known. -/
  | outside
deriving DecidableEq, Repr

namespace FileTree

/-- The tree of files and directories with their paths. -/
def ofPaths (entries : List (String × Node)) : FileTree :=
  entries.map fun (path, node) => ((pathNames path).filter (!isIdle ·), node)

/-- The place that names lead to. -/
def place? (tree : FileTree) (names : List String) : Option Place :=
  match tree.lookup names with
  | some (.file bytes) => some (.file bytes)
  | some .directory => some (.inside names)
  | none => if tree.any fun entry => names.isPrefixOf entry.1 then some (.inside names) else none

/-- The longest name, in bytes. -/
def maxNameSize : Nat := 255

/-- The longest path, in bytes. -/
def maxPathSize : Nat := 4095

/-- Goes from a place to one that a name leads to. -/
def step (tree : FileTree) (place : Place) (name : String) : Except PathError Place :=
  match place with
  | .file _ => .error .notDirectory
  | .outside =>
    if isIdle name ∨ name = ".." then .ok .outside
    else if maxNameSize < name.utf8ByteSize then .error .nameTooLong
    else .error .notFound
  | .inside names =>
    if isIdle name then .ok place
    else if name = ".." then .ok (if names.isEmpty then .outside else .inside names.dropLast)
    else if maxNameSize < name.utf8ByteSize then .error .nameTooLong
    else
      match tree.place? (names ++ [name]) with
      | some place => .ok place
      | none => .error .notFound

/-- The place that a path leads to. -/
def resolve (tree : FileTree) (path : String) : Except PathError Place :=
  if path.toList.contains '\x00' then .error .embeddedNul
  else if maxPathSize < path.utf8ByteSize then .error .nameTooLong
  else if path.isEmpty then .error .notFound
  else
    (pathNames path).foldlM tree.step (if path.toList.head? = some '/' then .outside else .inside [])

/-- The stream of a file.  A directory can be opened, but not read. -/
def openFile (tree : FileTree) (path : String) : Except String Text.Stream :=
  match tree.resolve path with
  | .ok (.file bytes) => .ok (.ofBytes bytes)
  | .ok _ => .ok ⟨[], some PathError.isDirectory.message⟩
  | .error e => .error e.message

end FileTree

end ProbeForest.Command
