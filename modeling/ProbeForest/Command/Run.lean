import ProbeForest.Benchmark.WordList
import ProbeForest.Command.Basic
import ProbeForest.Command.Outcome
import ProbeForest.Command.Surroundings
import ProbeForest.Workflow.Benchmarking
import ProbeForest.Workflow.Connecting
import ProbeForest.Workflow.Spelling

/-!
# Running a command

A command reads its input, does its work and returns an outcome; all of it is
written to a journal, with a span for the run, one for the command and one for
opening a file.
-/

namespace ProbeForest.Command

open Journal (emit note span)

/-- Why a command failed. -/
inductive Failure where
  /-- A file could not be opened or read. -/
  | unreadable (path cause : String)
  | secret (cause : Vocabulary.SecretError)
  | benchmark (cause : Benchmark.ConfigError)
  | input (cause : Network.InputError)
  | plan (cause : Network.PlanError)
deriving DecidableEq, Repr

namespace Failure

def message : Failure → String
  | unreadable path cause => s!"failed to read `{path}`: {cause}"
  | secret cause => cause.message
  | benchmark cause => cause.message
  | input cause => cause.message
  | plan cause => cause.message

/-- The stable name of the cause; the system's own failures have none. -/
def code? : Failure → Option String
  | unreadable _ _ => none
  | secret cause => some cause.code
  | benchmark cause => some cause.code
  | input cause => some cause.code
  | plan cause => some cause.code

/-- The message, followed by what it was caused by. -/
def chain (f : Failure) : String :=
  match f with
  | unreadable _ cause => s!"{f.message}: {cause}"
  | _ => f.message

end Failure

instance : Journal.Described Failure := ⟨Failure.message⟩

/-- The target of diagnostics about commands. -/
def commandTarget : String := "katsuo_cli::cli::commands"

/-- A command under way. -/
abbrev Running := FallibleRecording Failure

/-- A fault in reading a file. -/
def readable (path : String) (result : Except Text.ReadError α) : Except Failure α :=
  result.mapError fun e => .unreadable path e.message

/-- Opens a file. -/
def openFile (s : Surroundings) (path : String) : Except Failure Text.Stream :=
  (s.openFile path).mapError (.unreadable path)

/-- Opens a file to be read piece by piece. -/
def openReader (s : Surroundings) (path : String) : Running Text.Stream :=
  span { name := "cli.open_reader", target := commandTarget, fields := [("path", none)] } do
    note [("path", .shown path)]
    openFile s path

/-- Spells the secret of the prose in a file. -/
def runSecret (s : Surroundings) (path : String) : Running Outcome :=
  span { name := "cli.secret", target := commandTarget, fields := [("path", none)] } do
    note [("path", .shown path)]
    let stream ← (openFile s path : Except Failure _)
    let text ← (readable path stream.readText : Except Failure _)
    let ranking := Vocabulary.Ranking.ofText text
    let secret ← (Workflow.secret ranking Vocabulary.secretRanks).adapt .secret
    emit .info commandTarget "secret extracted"
      [("distinct", .natural ranking.distinct), ("tokens", .natural ranking.total)]
    return .secret secret

/-- Runs the probe benchmark on the word list in a file. -/
def runProbe (s : Surroundings) (path : String) (config : Benchmark.Config) : Running Outcome :=
  span
    { name := "cli.probe"
      target := commandTarget
      fields := [("path", none), ("capacity", some (.natural config.capacity.slots))] }
    do
      note [("path", .shown path)]
      let stream ← openReader s path
      let words ← (readable path (Benchmark.readWords stream) : Except Failure _)
      let report ← (Workflow.benchmark config words s.elapsed).adapt .benchmark
      emit .info commandTarget "probe benchmark finished"
        [("words", .natural words.length), ("batches", .natural report.batches.length)]
      return .probe report

/-- Plans connections for the problem on a stream. -/
def connectStream (stream : Text.Stream) : Running Outcome := do
  let problem ← (Workflow.readProblem stream).adapt .input
  let plan ← (Workflow.plan problem).adapt .plan
  emit .info commandTarget "connection plan computed"
    [("regions", .natural problem.regions), ("roads", .natural problem.roads.length),
      ("total_cost", .integer plan.total)]
  return .connect plan

/-- Plans connections for the problem in a file, or on standard input. -/
def runConnect (s : Surroundings) (path? : Option String) : Running Outcome :=
  span { name := "cli.connect", target := commandTarget, fields := [("source", none)] } do
    note [("source", .shown (path?.getD "<stdin>"))]
    let stream ← match path? with
      | some path => openReader s path
      | none => pure s.input
    connectStream stream

/-- Runs a command. -/
def run (s : Surroundings) (command : Command) : Running Outcome :=
  span { name := "cli.run", target := commandTarget, fields := [("command", none)] } do
    note [("command", .shown command.name.text)]
    match command with
    | .secret path => runSecret s path
    | .probe path config => runProbe s path config
    | .connect path? => runConnect s path?

end ProbeForest.Command
