import RepairConsole.Main
import RepairConsole.Rehearsal.Host
import RepairConsole.Rehearsal.Program
import RepairConsole.Rehearsal.Shell.Pattern
import RepairConsole.Proofs.Query.Validation
import RepairConsole.Proofs.Supervisor.Ownership
import RepairConsole.Proofs.Supervisor.Record
import RepairConsole.Proofs.Query.Forwarding
import RepairConsole.Proofs.Supervisor.Relay
import RepairConsole.Proofs.Text.Utf8
import RepairConsole.Proofs.Url.Percent
import RepairConsole.Proofs.Url.Form
import RepairConsole.Proofs.Remote.Target
import RepairConsole.Proofs.Remote.Lookup
import RepairConsole.Proofs.Remote.RequestLine
import RepairConsole.Proofs.Remote.Confinement
import RepairConsole.Proofs.Remote.Status
import RepairConsole.Proofs.Output
import RepairConsole.Proofs.Report.Lines
import RepairConsole.Proofs.Record.Partial
import RepairConsole.Proofs.Report.Ordering
import RepairConsole.Proofs.Report.Columns
import RepairConsole.Proofs.CommandLine.Outcome
import RepairConsole.Proofs.Supervisor.Interleaving
import RepairConsole.Proofs.Supervisor.Custody
import RepairConsole.Proofs.Supervisor.Atomicity
import RepairConsole.Proofs.Supervisor.Recipient
import RepairConsole.Proofs.Remote.Detail
import RepairConsole.Proofs.Window.Token
import RepairConsole.Proofs.Window.Components
import RepairConsole.Proofs.Window.Resolution
import RepairConsole.Proofs.Window.ShownTime
import RepairConsole.Proofs.Window.Millis
import RepairConsole.Proofs.Window.SameInstant
import RepairConsole.Proofs.Launch.Places
import RepairConsole.Proofs.Launch.ClassPath
import RepairConsole.Proofs.Query.Capacity
import RepairConsole.Proofs.Report.Tally
import RepairConsole.Proofs.Report.Elapsed
import RepairConsole.Proofs.Report.RepairedAt
import RepairConsole.Proofs.Report.Percent
import RepairConsole.Proofs.Report.Setting
import RepairConsole.Proofs.Url.Base
