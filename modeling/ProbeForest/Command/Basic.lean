import ProbeForest.Benchmark.Config

/-!
# Commands
-/

namespace ProbeForest

/-- What the program is asked to do. -/
inductive Command where
  /-- Spell the secret of the prose in a file. -/
  | secret (path : String)
  /-- Run the probe benchmark on the word list in a file. -/
  | probe (path : String) (config : Benchmark.Config)
  /-- Plan connections for the problem in a file, or on standard input. -/
  | connect (path : Option String)

namespace Command

/-- The words that name commands. -/
inductive Name where
  | secret
  | probe
  | connect
deriving DecidableEq, Repr

namespace Name

def text : Name → String
  | secret => "secret"
  | probe => "probe"
  | connect => "connect"

def ofText? : String → Option Name
  | "secret" => some secret
  | "probe" => some probe
  | "connect" => some connect
  | _ => none

end Name

def name : Command → Name
  | secret _ => .secret
  | probe _ _ => .probe
  | connect _ => .connect

end Command

end ProbeForest
