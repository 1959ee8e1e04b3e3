import EntityModels.CommandLine.FileTree
import EntityModels.Instance.Encoding
import EntityModels.Main
import EntityModels.Naming.Config
import EntityModels.Proofs.Graph.Ancestry
import EntityModels.Proofs.Record
import EntityModels.Proofs.Model.Synthesis
import EntityModels.Proofs.Compilation.Partition
import EntityModels.Proofs.Compilation.Chain
import EntityModels.Proofs.Compilation.Numbering
import EntityModels.Proofs.Instance.Edits
import EntityModels.Proofs.Instance.Merge
import EntityModels.Proofs.Instance.Session
import EntityModels.Proofs.Instance.Equality
import EntityModels.Proofs.Instance.Slots
import EntityModels.Proofs.Instance.Algebra
import EntityModels.Proofs.Instance.Replay
import EntityModels.Proofs.Compilation.Growth
import EntityModels.Proofs.Compilation.Identifiers
import EntityModels.Proofs.Compilation.Faults
import EntityModels.Proofs.Instance.Growth
import EntityModels.Proofs.Target.Unresolved
import EntityModels.Proofs.Compilation.Diagnostics
import EntityModels.Proofs.Naming.Words
import EntityModels.Proofs.Model.Flags
import EntityModels.Proofs.Naming.Legality
import EntityModels.Proofs.Target.Coercion
import EntityModels.Proofs.Compilation.Types
import EntityModels.Proofs.Compilation.Classes
import EntityModels.Proofs.Compilation.Legality
import EntityModels.Proofs.Model.References
import EntityModels.Proofs.Compilation.Hooks
import EntityModels.Proofs.Compilation.Closure
import EntityModels.Proofs.Graph.Acceptance
import EntityModels.Proofs.Compilation.Agreement
import EntityModels.Proofs.Compilation.Insertion
import EntityModels.Proofs.Compilation.Order
import EntityModels.Proofs.Graph.References
import EntityModels.Proofs.Target.Renaming
import EntityModels.Proofs.Model.Renaming
import EntityModels.Proofs.Compilation.Renaming
import EntityModels.Proofs.Graph.Spelling
import EntityModels.Proofs.Target.Nesting
import EntityModels.Proofs.Graph.Walk
import EntityModels.Proofs.Document.Agreement
import EntityModels.Proofs.Model.Failure
import EntityModels.Proofs.Model.Alignment
import EntityModels.Proofs.Instance.Notifications
import EntityModels.Proofs.CommandLine.Reading
import EntityModels.Proofs.Document.Spine
import EntityModels.Proofs.Schema.RoundTrip
import EntityModels.Proofs.CommandLine.Commands
import EntityModels.Proofs.Compilation.Queries
import EntityModels.Proofs.Compilation.Events
import EntityModels.Proofs.Model.Spelling
