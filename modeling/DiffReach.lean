import DiffReach.Main
import DiffReach.Host.Call
import DiffReach.Proofs.Recall
import DiffReach.Proofs.Patch.Header
import DiffReach.Proofs.Patch.Scan
import DiffReach.Proofs.Patch
import DiffReach.Proofs.Host.Reading
import DiffReach.Proofs.Engine.Contact
import DiffReach.Proofs.Scope.Files
import DiffReach.Proofs.Host.Interruption
import DiffReach.Proofs.Scope.WholeOrNone
import DiffReach.Proofs.Scope.Pagination
import DiffReach.Proofs.Scope.Newness
import DiffReach.Proofs.Snapshot.Downloads
import DiffReach.Proofs.Engine.Sources
import DiffReach.Proofs.Engine.Tolerance
import DiffReach.Proofs.Source.Loss
import DiffReach.Proofs.Engine.Degradation
import DiffReach.Proofs.Text.Percent
import DiffReach.Proofs.Snapshot.Interleaving
import DiffReach.Proofs.Verdict.Growth
import DiffReach.Proofs.Verdict.FileOrder
import DiffReach.Proofs.CheckRun.Conservation
import DiffReach.Proofs.Repository
import DiffReach.Proofs.Engine.Foreign
import DiffReach.Proofs.Source.CallSite
import DiffReach.Proofs.Source.Lines
import DiffReach.Proofs.Source.LastDefinition
import DiffReach.Proofs.Source.Decoration
import DiffReach.Proofs.Engine.Exhaustion
import DiffReach.Proofs.Engine.Budget
import DiffReach.Proofs.Value
import DiffReach.Proofs.Toml.Reader
import DiffReach.Proofs.Limits.Override
import DiffReach.Proofs.Settings
import DiffReach.Proofs.CommandLine.Settings
import DiffReach.Proofs.Snapshot.Content
import DiffReach.Proofs.Scope.Isolation
import DiffReach.Proofs.Number.Decimal
import DiffReach.Proofs.Number.Numeral
import DiffReach.Proofs.Limits.Coercion
import DiffReach.Proofs.Repository.Splitting
import DiffReach.Proofs.Path
import DiffReach.Proofs.CallGraph.Dot
import DiffReach.Proofs.CallGraph.Walk
import DiffReach.Proofs.Source.DefinitionReading
import DiffReach.Proofs.CallGraph.Quoting
import DiffReach.Proofs.CheckRun.Placement
import DiffReach.Proofs.Json.Scalar
import DiffReach.Proofs.Json.Document
import DiffReach.Proofs.CommandLine.Findings
