import ServiceControl.CommandLine.Arguments
import ServiceControl.CommandLine.Program
import ServiceControl.CommandLine.Session
import ServiceControl.Config
import ServiceControl.Config.Load
import ServiceControl.Config.Record
import ServiceControl.ControlLoop
import ServiceControl.Controller
import ServiceControl.Decimal.Shortest
import ServiceControl.Error
import ServiceControl.ErrorBox
import ServiceControl.Escalation
import ServiceControl.Files
import ServiceControl.Gateway
import ServiceControl.Journal
import ServiceControl.Json.Fault
import ServiceControl.Json.Numeral
import ServiceControl.Json.Printer
import ServiceControl.Json.Reader
import ServiceControl.Json.Token
import ServiceControl.Json.Value
import ServiceControl.Main
import ServiceControl.Memory.Gateway
import ServiceControl.Memory.Machine
import ServiceControl.Memory.Service
import ServiceControl.NameMap
import ServiceControl.Platform
import ServiceControl.Process
import ServiceControl.Proofs.Beaters
import ServiceControl.Proofs.Beside
import ServiceControl.Proofs.Callbacks
import ServiceControl.Proofs.Cancellations
import ServiceControl.Proofs.CommandLine.Grammar
import ServiceControl.Proofs.CommandLine.Launch
import ServiceControl.Proofs.CommandLine.Lifetime
import ServiceControl.Proofs.CommandLine.Names
import ServiceControl.Proofs.CommandLine.Precedence
import ServiceControl.Proofs.Config.Fields
import ServiceControl.Proofs.Config.Records
import ServiceControl.Proofs.Config.RoundTrip
import ServiceControl.Proofs.Config.Settings
import ServiceControl.Proofs.Contexts
import ServiceControl.Proofs.Course
import ServiceControl.Proofs.Dispatches
import ServiceControl.Proofs.Heartbeats
import ServiceControl.Proofs.Interactive
import ServiceControl.Proofs.Json.Forms
import ServiceControl.Proofs.Json.Spelling
import ServiceControl.Proofs.Json.Written
import ServiceControl.Proofs.Memory.Asked
import ServiceControl.Proofs.Memory.Asks
import ServiceControl.Proofs.Memory.Calls
import ServiceControl.Proofs.Memory.Eager
import ServiceControl.Proofs.Memory.Endings
import ServiceControl.Proofs.Memory.Faults
import ServiceControl.Proofs.Memory.Handles
import ServiceControl.Proofs.Memory.Lifecycle
import ServiceControl.Proofs.Memory.Neighbours
import ServiceControl.Proofs.Memory.Orders
import ServiceControl.Proofs.Memory.Orphans
import ServiceControl.Proofs.Memory.Oversight
import ServiceControl.Proofs.Memory.Pairing
import ServiceControl.Proofs.Memory.Processes
import ServiceControl.Proofs.Memory.Refusals
import ServiceControl.Proofs.Memory.Requests
import ServiceControl.Proofs.Memory.Residues
import ServiceControl.Proofs.Memory.Rounds
import ServiceControl.Proofs.Memory.Staged
import ServiceControl.Proofs.Memory.Standing
import ServiceControl.Proofs.Memory.Stops
import ServiceControl.Proofs.Operations
import ServiceControl.Proofs.Passages
import ServiceControl.Proofs.Promises
import ServiceControl.Proofs.Recorded.Conduct
import ServiceControl.Proofs.Recorded.Installs
import ServiceControl.Proofs.Recorded.Notes
import ServiceControl.Proofs.Recorded.Recovery
import ServiceControl.Proofs.Recorded.Staged
import ServiceControl.Proofs.Recorded.Tally
import ServiceControl.Proofs.Recorded.Uninstalls
import ServiceControl.Proofs.Reports
import ServiceControl.Proofs.Running
import ServiceControl.Proofs.Scripted.BoundedStop
import ServiceControl.Proofs.Scripted.Conduct
import ServiceControl.Proofs.Sight
import ServiceControl.Proofs.Stages
import ServiceControl.Proofs.Texts
import ServiceControl.Proofs.Watch
import ServiceControl.Proofs.Windows.Custody
import ServiceControl.Proofs.Windows.Dispatch
import ServiceControl.Proofs.Windows.Errands
import ServiceControl.Proofs.Windows.Exchanges
import ServiceControl.Proofs.Windows.Leftovers
import ServiceControl.Proofs.Windows.Pile
import ServiceControl.Proofs.Windows.Refusals
import ServiceControl.Proofs.Windows.Runs
import ServiceControl.Proofs.Windows.Slot
import ServiceControl.Proofs.Windows.Timeout
import ServiceControl.Proofs.Windows.Turns
import ServiceControl.Proofs.Windows.Uses
import ServiceControl.Proofs.Windows.Verdicts
import ServiceControl.Report
import ServiceControl.Scenario.Beats
import ServiceControl.Scenario.Calls
import ServiceControl.Scenario.Contexts
import ServiceControl.Scenario.Loop
import ServiceControl.Scenario.Outcome
import ServiceControl.Scenario.Shared
import ServiceControl.Scenario.Stage
import ServiceControl.Scenario.Win32
import ServiceControl.Scene
import ServiceControl.Scripted.Gateway
import ServiceControl.Shutdown
import ServiceControl.Signal
import ServiceControl.Spec
import ServiceControl.Status
import ServiceControl.StopTimeout
import ServiceControl.Task
import ServiceControl.Text.Blank
import ServiceControl.Text.Duration
import ServiceControl.Text.Natural
import ServiceControl.Text.Quoted
import ServiceControl.Text.Shown
import ServiceControl.Text.Utf16
import ServiceControl.Windows.Gateway
import ServiceControl.Windows.Manager
import ServiceControl.Windows.Quoting
import ServiceControl.Windows.Registry
import ServiceControl.Windows.Win32
import ServiceControl.Workload
import ServiceControl.Workload.Heartbeat
import ServiceControl.Workload.Notify
import ServiceControl.Workload.Scripted
