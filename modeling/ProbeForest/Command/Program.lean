import ProbeForest.Command.Arguments
import ProbeForest.Command.Run
import ProbeForest.Journal.Format
import ProbeForest.Journal.Line

/-!
# The whole program

The program first settles how to log, then reads its arguments, runs the
command and writes the outcome.  It ends with status zero if all of that
succeeds, with one if logging cannot be set up or the command fails, and with
two if the arguments are not understood.
-/

namespace ProbeForest.Command

/-- The settings of a log, as bytes; without one the standard holds. -/
structure LogSettings where
  format : Option (List UInt8)
  filter : Option (List UInt8)

/-- What the program logs. -/
inductive LogOutput where
  /-- Logging could not be set up, and a single line says why. -/
  | refused (line : String)
  | lines (format : Journal.Format) (lines : List Journal.Line)

/-- What the program does. -/
inductive Ending where
  /-- The arguments are not understood. -/
  | usage (cause : ArgumentError)
  | finished (status : Nat) (output : List UInt8) (log : LogOutput)

/-- Logging is set up for the process as a whole before the program asks for it. -/
def announceLogging : Recording Unit :=
  Journal.emit .debug "katsuo_cli::logging"
    "global subscriber already installed; keeping it" []

/-- Reports that a command failed, with the name of the cause if it has one. -/
def reportFailure (f : Failure) : Recording Unit :=
  Journal.write <| .event
    { level := .error
      target := "katsuo"
      message := some "command execution failed"
      fields :=
        [("error", some (.shown s!"failed to execute command: {f.chain}")),
          ("code", f.code?.map .shown)] }

/-- Runs a command, and reports its failure. -/
def perform (s : Surroundings) (command : Command) : Recording (Option Outcome) := do
  announceLogging
  match ← (run s command).run with
  | .ok outcome => return some outcome
  | .error failure =>
    reportFailure failure
    return none

/-- The whole program. -/
def program (settings : LogSettings) (s : Surroundings) (arguments : List String) : Ending :=
  match Journal.Format.ofSetting settings.format with
  | .error e => .finished 1 [] (.refused s!"failed to initialise logging: {e.message}")
  | .ok format =>
    match ofArguments arguments with
    | .error e => .usage e
    | .ok command =>
      let (outcome, journal) := Journal.collect (perform s command)
      let log := LogOutput.lines format
        (Journal.lines (Journal.Filter.ofSetting settings.filter) journal)
      match outcome with
      | some outcome => .finished 0 outcome.bytes log
      | none => .finished 1 [] log

end ProbeForest.Command
