import BootChain.Artifacts
import BootChain.Cancellation
import BootChain.Json.Reader
import BootChain.Main
import BootChain.Rehearsal
import BootChain.SystemTest.BuildTree
import BootChain.SystemTest.Settings
import BootChain.Proofs.Job.Transcript
import BootChain.Proofs.SortedMap
import BootChain.Proofs.Trial.Course
import BootChain.Proofs.Trial.Account
import BootChain.Matrix.Schedule
import BootChain.Proofs.Trial.Perform
import BootChain.Proofs.Chain
import BootChain.Proofs.Command
import BootChain.Proofs.Report.Cells
import BootChain.Proofs.Matrix.Schedule
import BootChain.Proofs.Report.Status
import BootChain.Proofs.Matrix.Confluence
import BootChain.Proofs.Matrix.Sequential
import BootChain.Proofs.Matrix.Coverage
import BootChain.Proofs.Trial.Completed
import BootChain.Proofs.Matrix.Grid
import BootChain.Proofs.Report.Comparisons
import BootChain.Proofs.Report.Findings
import BootChain.Job.Weave
import BootChain.Proofs.Job.Weave
import BootChain.Proofs.FileSystem
import BootChain.Proofs.Text.Utf8.RoundTrip
import BootChain.Proofs.Artifacts
import BootChain.Proofs.Job.Discipline
import BootChain.Proofs.Trial.Tidy
import BootChain.Proofs.Trial.Confinement
import BootChain.Proofs.Trial.Interleaving
import BootChain.Proofs.FileSystem.Grounded
import BootChain.Proofs.Trial.Sharing
import BootChain.Proofs.Artifacts.Naming
import BootChain.Proofs.Catalog
import BootChain.Proofs.Catalog.Coverage
import BootChain.Proofs.Config.RoundTrip
import BootChain.Proofs.Trial.Leftovers
import BootChain.Proofs.Matrix.Discretion
import BootChain.Proofs.Matrix.Selection
import BootChain.Proofs.Matrix.Supervision
import BootChain.Proofs.Matrix.Closing
import BootChain.Proofs.Matrix.Document
import BootChain.Proofs.CommandLine.Layers
import BootChain.Proofs.Matrix.Trace
import BootChain.Proofs.Chain.Edits
import BootChain.Proofs.Template.Spelling
import BootChain.Proofs.Template.Rendering
import BootChain.Proofs.Json.Compact
import BootChain.Proofs.Json.Order
import BootChain.Proofs.Report.Canonical
import BootChain.Proofs.Trial.Cleanup
import BootChain.Proofs.Trial.Telling
import BootChain.Proofs.CommandLine.Reliance
import BootChain.Proofs.Config.Overrides
import BootChain.Proofs.CommandLine.Selection
import BootChain.Proofs.EventLog
import BootChain.Proofs.Report.Differences
import BootChain.Proofs.Report.Layout
import BootChain.Proofs.CommandLine.ReportFiles
import BootChain.Proofs.SystemTest.BuildTree
import BootChain.Proofs.Host
