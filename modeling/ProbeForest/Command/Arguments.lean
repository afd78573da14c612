import ProbeForest.Command.Basic
import ProbeForest.Text.Integer

/-!
# Command lines

A command line names a command, and then gives a path and options in any
order.  An option takes its value from the same argument, after an equals
sign, or from the next one, unless that begins with a dash of its own.  After
two dashes everything is a path.

Arguments are read from left to right.  One that has no place is refused at
once.  A path, or an option whose value is not part of the same argument, is
checked only when the next argument that has a place is met, or the line
ends: until then it is *pending*.  So a misplaced argument is reported before
a faulty value that stands to its left.  That a path is missing is found last.
-/

namespace ProbeForest.Command

/-- Why a command line gives no command. -/
inductive ArgumentError where
  /-- There are no arguments. -/
  | nothingGiven
  | helpAsked
  | unknownCommand
  /-- An argument has no place. -/
  | misplaced
  /-- A value is given to an option that takes none. -/
  | needlessValue
  /-- An option lacks its value, or a path is empty. -/
  | missingValue
  /-- A value is no number of the kind that the option takes. -/
  | unreadableValue
  /-- An option is given twice. -/
  | repeated
  | missingPath
deriving DecidableEq, Repr

/-- The options of a probe benchmark. -/
inductive Setting where
  | capacity
  | wordCount
  | batchSize
  | deleteStart
  | deleteEnd
deriving DecidableEq, Repr

/-- The setting that the name of an option, without its dashes, stands for. -/
def Setting.ofName? : String → Option Setting
  | "capacity" => some capacity
  | "word-count" => some wordCount
  | "batch-size" => some batchSize
  | "delete-start" => some deleteStart
  | "delete-end" => some deleteEnd
  | _ => none

/-! ## Single arguments -/

/-- What an argument looks like. -/
inductive Shape where
  /-- Two dashes and nothing else. -/
  | separator
  /-- Two dashes and a name, with a value if there is an equals sign. -/
  | long (name : String) (value : Option String)
  /-- A dash and more. -/
  | short (first : Char)
  /-- Anything else, a single dash included. -/
  | plain
deriving DecidableEq, Repr

/-- The name of an option and the value after the equals sign. -/
def splitOption (text : List Char) : String × Option String :=
  let name := String.ofList (text.takeWhile (· != '='))
  match text.dropWhile (· != '=') with
  | [] => (name, none)
  | _ :: value => (name, some (String.ofList value))

/-- The shape of an argument. -/
def Shape.ofArgument (argument : String) : Shape :=
  match argument.toList with
  | ['-', '-'] => .separator
  | '-' :: '-' :: text => let (name, value) := splitOption text; .long name value
  | '-' :: c :: _ => .short c
  | _ => .plain

/-! ## The arguments of a command -/

/-- An argument that has a place. -/
inductive Occurrence where
  | path (text : String)
  | setting (setting : Setting) (value : Option String)
deriving DecidableEq, Repr

/-- What has been read so far. -/
structure Progress where
  /-- The path that was accepted. -/
  path : Option String
  /-- The settings that were accepted. -/
  settings : List (Setting × Nat)
  /-- The occurrence that is not checked yet. -/
  pending : Option Occurrence
  /-- A path has been met. -/
  hasPath : Bool
deriving DecidableEq, Repr

namespace Progress

def start : Progress := ⟨none, [], none, false⟩

/-- A value is allowed for a setting: a table has at least one slot. -/
def allows : Setting → Nat → Bool
  | .capacity, n => n != 0
  | _, _ => true

/-- Checks an occurrence and accepts it. -/
def accept (p : Progress) : Occurrence → Except ArgumentError Progress
  | .path text => if text.isEmpty then .error .missingValue else .ok { p with path := some text }
  | .setting _ none => .error .missingValue
  | .setting setting (some value) =>
    if p.settings.any (·.1 == setting) then .error .repeated
    else
      match (Text.readCount value).filter (allows setting) with
      | some n => .ok { p with settings := (setting, n) :: p.settings }
      | none => .error .unreadableValue

/-- Checks the pending occurrence. -/
def settle (p : Progress) : Except ArgumentError Progress :=
  match p.pending with
  | none => .ok p
  | some occurrence => { p with pending := none }.accept occurrence

/-- Makes an occurrence the pending one. -/
def defer (p : Progress) (occurrence : Occurrence) : Except ArgumentError Progress := do
  return { (← p.settle) with pending := some occurrence }

/-- Meets a path. -/
def meetPath (p : Progress) (text : String) : Except ArgumentError Progress :=
  if p.hasPath then .error .misplaced
  else do return { (← p.defer (.path text)) with hasPath := true }

/-- Meets a request for help. -/
def meetHelp (p : Progress) (value : Option String) : Except ArgumentError Progress := do
  if value.isSome then throw .needlessValue
  let _ ← p.settle
  throw .helpAsked

end Progress

/-- The setting that a command takes under a name. -/
def Name.setting? (name : Name) (option : String) : Option Setting :=
  if name = .probe then Setting.ofName? option else none

/-- An argument may be the value of the option before it. -/
def isValue (argument : String) : Bool := Shape.ofArgument argument == .plain

/-- Reads the arguments of a command after the two dashes. -/
def readPaths (p : Progress) : List String → Except ArgumentError Progress
  | [] => .ok p
  | argument :: rest => do readPaths (← p.meetPath argument) rest

/-- Reads the arguments of a command. -/
def readArguments (name : Name) (p : Progress) : List String → Except ArgumentError Progress
  | [] => .ok p
  | argument :: rest =>
    match Shape.ofArgument argument with
    | .separator => readPaths p rest
    | .plain => do readArguments name (← p.meetPath argument) rest
    | .short first => if first = 'h' then p.meetHelp none else .error .misplaced
    | .long option value =>
      if option = "help" then p.meetHelp value
      else
        match name.setting? option, value, rest with
        | none, _, _ => .error .misplaced
        | some setting, some value, rest => do
          readArguments name (← (← p.settle).accept (.setting setting (some value))) rest
        | some setting, none, next :: others =>
          if isValue next then do
            readArguments name (← p.defer (.setting setting (some next))) others
          else do
            readArguments name (← p.defer (.setting setting none)) (next :: others)
        | some setting, none, [] => p.defer (.setting setting none)
termination_by arguments => arguments.length

/-! ## Whole command lines -/

/-- The settings of a benchmark, with those that were given in place of the reference. -/
def configOf (settings : List (Setting × Nat)) : Benchmark.Config :=
  let reference := Benchmark.Config.reference
  let given (setting : Setting) (otherwise : Nat) := (settings.lookup setting).getD otherwise
  { capacity := ((settings.lookup .capacity).bind Table.Capacity.ofNat?).getD reference.capacity
    wordCount := given .wordCount reference.wordCount
    batchSize := given .batchSize reference.batchSize
    deleteStart := given .deleteStart reference.deleteStart
    deleteEnd := given .deleteEnd reference.deleteEnd }

/-- The command of a name and what was read for it. -/
def ofProgress (name : Name) (p : Progress) : Except ArgumentError Command :=
  match name, p.path with
  | .connect, path => .ok (.connect path)
  | _, none => .error .missingPath
  | .secret, some path => .ok (.secret path)
  | .probe, some path => .ok (.probe path (configOf p.settings))

/-- The name of a command, or of the help on commands. -/
def isTopic (argument : String) : Bool :=
  argument == "help" || (Name.ofText? argument).isSome

/-- Help on a command, by name. -/
def helpOn : List String → ArgumentError
  | [] => .helpAsked
  | [topic] => if isTopic topic then .helpAsked else .unknownCommand
  | _ => .unknownCommand

/-- What is wrong with arguments behind two dashes: a command has no place there. -/
def behindSeparator : List String → ArgumentError
  | [] => .nothingGiven
  | argument :: _ => if isTopic argument then .misplaced else .unknownCommand

/-- Reads a command line, without the name of the program. -/
def ofArguments : List String → Except ArgumentError Command
  | [] => .error .nothingGiven
  | first :: rest =>
    match Shape.ofArgument first with
    | .separator => .error (behindSeparator rest)
    | .short c => .error (if c = 'h' then .helpAsked else .misplaced)
    | .long name value =>
      .error
        (if name ≠ "help" then .misplaced
          else if value.isSome then .needlessValue else .helpAsked)
    | .plain =>
      if first = "help" then .error (helpOn rest)
      else
        match Name.ofText? first with
        | none => .error .unknownCommand
        | some name => do ofProgress name (← (← readArguments name .start rest).settle)

end ProbeForest.Command
