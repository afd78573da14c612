import ProbeForest.Command.Program
import ProbeForest.Journal.Json

/-!
# The command line

The outer layer of the program: it reads the environment, the files and
standard input, measures how long batches of insertions take, and prints what
the program decides.
-/

namespace ProbeForest.Main

open Command (LogOutput LogSettings Surroundings)

/-- A failure of the system, with its number. -/
def describe : IO.Error → String
  | .noFileOrDirectory _ code details => s!"{details} (os error {code})"
  | .permissionDenied _ code details => s!"{details} (os error {code})"
  | .inappropriateType _ code details => s!"{details} (os error {code})"
  | .invalidArgument _ code details => s!"{details} (os error {code})"
  | .resourceExhausted _ code details => s!"{details} (os error {code})"
  | e => toString e

/-- Reads a handle to its end. -/
def readHandle (read : IO ByteArray) : IO Text.Stream := do
  match ← read.toBaseIO with
  | .ok bytes => return .ofBytes bytes.toList
  | .error e => return ⟨[], some (describe e)⟩

/-- Opens and reads a file. -/
def readFile (path : String) : IO (Except String Text.Stream) := do
  match ← (IO.FS.Handle.mk path .read).toBaseIO with
  | .ok handle => return .ok (← readHandle handle.readBinToEnd)
  | .error e => return .error (describe e)

/-- Measures how long each batch of insertions takes. -/
def measureBatches (config : Benchmark.Config) (words : List String) :
    IO (Array Benchmark.Duration) := do
  let mut table := Table.ofCapacity config.capacity
  let mut times := #[]
  for batch in config.batches words do
    let filling := table
    let start ← IO.monoNanosNow
    let (_, filled) ← IO.lazyPure fun _ => (Table.insertAll batch).run filling
    let stop ← IO.monoNanosNow
    table := filled
    times := times.push (.ofNanos (stop - start))
  return times

/-- The times of a benchmark whose settings fit its words. -/
def measureProbe (config : Benchmark.Config) (stream : Except String Text.Stream) :
    IO (Array Benchmark.Duration) := do
  match stream with
  | .error _ => return #[]
  | .ok stream =>
    match Benchmark.readWords stream with
    | .error _ => return #[]
    | .ok words =>
      match config.check words.length with
      | .error _ => return #[]
      | .ok () => measureBatches config words

/-- Reads what a command needs. -/
def surroundings (command : Command) : IO Surroundings := do
  let unopened : String → Except String Text.Stream := fun path => .error path
  let untimed : Nat → Benchmark.Duration := fun _ => .zero
  match command with
  | .secret path | .connect (some path) =>
    let stream ← readFile path
    return ⟨fun _ => stream, .ofBytes [], untimed⟩
  | .connect none =>
    return ⟨unopened, ← readHandle (← IO.getStdin).readBinToEnd, untimed⟩
  | .probe path config =>
    let stream ← readFile path
    let times ← measureProbe config stream
    return ⟨fun _ => stream, .ofBytes [], fun batch => times.getD (batch - 1) .zero⟩

/-- The bytes of an environment variable. -/
def setting (name : String) : IO (Option (List UInt8)) := do
  return (← IO.getEnv name).map Text.encode

/-- How to call the program. -/
def usage : String :=
  "Linear-probing and union-find exercises.\n\n"
    ++ "Usage: katsuo secret <PATH>\n"
    ++ "       katsuo probe <PATH> [--capacity N] [--word-count N] [--batch-size N]\n"
    ++ "                           [--delete-start N] [--delete-end N]\n"
    ++ "       katsuo connect [PATH]\n"

/-- The lines of a log. -/
def logLines : LogOutput → List String
  | .refused line => [line]
  | .lines .human lines => lines.map Journal.Line.readable
  | .lines .json lines => lines.map Journal.Line.json

/-- Runs the program. -/
def run (arguments : List String) : IO UInt32 := do
  let settings : LogSettings :=
    ⟨← setting Journal.formatSetting, ← setting "RUST_LOG"⟩
  let idle : Surroundings := ⟨fun path => .error path, .ofBytes [], fun _ => .zero⟩
  let met ← match Journal.Format.ofSetting settings.format, Command.ofArguments arguments with
    | .ok _, .ok command => surroundings command
    | _, _ => pure idle
  match Command.program settings met arguments with
  | .usage .helpAsked =>
    IO.print usage
    return 0
  | .usage _ =>
    IO.eprint usage
    return 2
  | .finished status output log =>
    for line in logLines log do
      IO.eprintln line
    (← IO.getStdout).write output.toByteArray
    (← IO.getStdout).flush
    return UInt32.ofNat status

end ProbeForest.Main

def main (arguments : List String) : IO UInt32 :=
  ProbeForest.Main.run arguments
