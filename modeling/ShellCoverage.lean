import ShellCoverage.GrowingTrace
import ShellCoverage.Main
import ShellCoverage.Proofs.Trace.Executions
import ShellCoverage.Proofs.Trace.Summary
import ShellCoverage.Proofs.Trace.Arrival
import ShellCoverage.Proofs.Trace.Append
import ShellCoverage.Proofs.Trace.Reports
import ShellCoverage.Proofs.Sink.LastWriter
import ShellCoverage.Proofs.Trace.Order
import ShellCoverage.Proofs.Path.Components
import ShellCoverage.Proofs.Path.Composition
import ShellCoverage.Proofs.Trace.Keys
import ShellCoverage.Proofs.Report.Json
import ShellCoverage.Proofs.CommandLine.Stages
import ShellCoverage.Proofs.Trace.Calls
import ShellCoverage.Proofs.Trace.Balance
import ShellCoverage.Proofs.Trace.LineCount
import ShellCoverage.Proofs.FileTree.Expanded
import ShellCoverage.Proofs.Report.ReadBack
import ShellCoverage.Proofs.Report.Summary
import ShellCoverage.Proofs.Report.JsonReader
