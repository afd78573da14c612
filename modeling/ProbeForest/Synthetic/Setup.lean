import ProbeForest.Network.Plan
import ProbeForest.Synthetic.Error
import ProbeForest.Table.Basic

/-!
# Preparing measurements

A measurement is labelled with the sizes it was made for.  Its preparation may
fail in the synthetic workload, in filling a table, in planning, or because a
number that has to be positive is zero.
-/

namespace ProbeForest.Synthetic

/-- Why a measurement could not be prepared. -/
inductive SetupError where
  | workload (cause : WorkloadError)
  | table (cause : Table.TableError)
  | planning (cause : Network.PlanError)
  | zeroValue (context : String)
deriving DecidableEq, Repr

def SetupError.message : SetupError → String
  | workload cause => s!"synthetic workload generation failed: {cause.message}"
  | table cause => s!"probe table preparation failed: {cause.message}"
  | planning cause => s!"connection planning failed: {cause.message}"
  | zeroValue context => s!"expected a non-zero value for {context}"

/-- The sizes of a measurement on a probe table. -/
structure TableSizes where
  capacity : Nat
  residentKeys : Nat

def TableSizes.label (s : TableSizes) : String := s!"cap={s.capacity},keys={s.residentKeys}"

/-- The sizes of a measurement on a road network. -/
structure NetworkSizes where
  regions : Nat
  roads : Nat

def NetworkSizes.label (s : NetworkSizes) : String := s!"n={s.regions},m={s.roads}"

end ProbeForest.Synthetic
