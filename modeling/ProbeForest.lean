import ProbeForest.Main
import ProbeForest.Command.FileTree
import ProbeForest.Synthetic.Setup
import ProbeForest.Proofs.Benchmark.Displacement
import ProbeForest.Proofs.Benchmark.WordList
import ProbeForest.Proofs.Command.MeanTime
import ProbeForest.Proofs.DisjointSet.Rank
import ProbeForest.Proofs.Journal.Recording
import ProbeForest.Proofs.Network.Bounds
import ProbeForest.Proofs.Network.Rearrangement
import ProbeForest.Proofs.Network.Reading
import ProbeForest.Proofs.Network.Strain
import ProbeForest.Proofs.Network.Turns
import ProbeForest.Proofs.Synthetic.Roads
import ProbeForest.Proofs.Synthetic.Words
import ProbeForest.Proofs.Table.ClosedForm
import ProbeForest.Proofs.Table.DeletionOrder
import ProbeForest.Proofs.Table.ProbeLength
import ProbeForest.Proofs.Table.Tombstones
import ProbeForest.Proofs.Vocabulary.Secret
