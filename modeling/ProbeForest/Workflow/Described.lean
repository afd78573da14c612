import ProbeForest.Benchmark.Config
import ProbeForest.Journal.Basic
import ProbeForest.Network.Plan
import ProbeForest.Network.Reader
import ProbeForest.Vocabulary.Secret

/-!
# How journals describe failures

A failure is described by its own message.
-/

namespace ProbeForest.Workflow

open Journal (Described)

instance : Described Vocabulary.SecretError := ⟨Vocabulary.SecretError.message⟩

instance : Described Benchmark.ConfigError := ⟨Benchmark.ConfigError.message⟩

instance : Described Network.InputError := ⟨Network.InputError.message⟩

instance : Described Network.PlanError := ⟨Network.PlanError.message⟩

end ProbeForest.Workflow
