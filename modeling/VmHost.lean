import VmHost.Call.Code
import VmHost.Call.Invocation
import VmHost.Call.NativeType
import VmHost.Call.RegisterFile
import VmHost.Call.Sample
import VmHost.Checkup.Bench
import VmHost.Checkup.Calls
import VmHost.Checkup.Faults
import VmHost.Checkup.Inspection
import VmHost.Checkup.Monitors
import VmHost.Checkup.Run
import VmHost.Checkup.Sheet
import VmHost.Config
import VmHost.Context
import VmHost.Environment
import VmHost.Error
import VmHost.Executable
import VmHost.Fault.Machine
import VmHost.Fault.Registry
import VmHost.Fault.Session
import VmHost.Fault.View
import VmHost.Host
import VmHost.Inspect.Inspector
import VmHost.Inspect.Machine
import VmHost.Inspect.Solo
import VmHost.Inspect.Steering
import VmHost.Log.Console
import VmHost.Log.Level
import VmHost.Log.Settings
import VmHost.Main
import VmHost.Memory
import VmHost.Monitor.Basic
import VmHost.Monitor.Client
import VmHost.Monitor.Crowd
import VmHost.Monitor.Handoff
import VmHost.Monitor.Machine
import VmHost.Monitor.Solo
import VmHost.Monitor.Tally
import VmHost.Monitor.Turns
import VmHost.Number.Binary
import VmHost.Number.Power
import VmHost.Platform
import VmHost.Platform.Ending
import VmHost.Row
import VmHost.Session.Command
import VmHost.Session.Run
import VmHost.Session.State
import VmHost.Signal
import VmHost.Snapshot.Buffer
import VmHost.Snapshot.Disk
import VmHost.Snapshot.Target
import VmHost.Snapshot.Walk
import VmHost.Snapshot.Write
import VmHost.Span
import VmHost.Sync.Event
import VmHost.Sync.Mutex
import VmHost.Sync.Park
import VmHost.Text.Blank
import VmHost.Text.Bytes
import VmHost.Text.Digits
import VmHost.Text.Numeral
import VmHost.Text.Printable
import VmHost.Text.Quoted
import VmHost.Text.Record
import VmHost.Thread.Flags
import VmHost.Thread.Id
import VmHost.Thread.Life
import VmHost.Thread.Stage
import VmHost.Thread.Start
import VmHost.Violation
import VmHost.Proofs.Row
import VmHost.Proofs.Monitor.Transition
import VmHost.Proofs.Monitor.Holding
import VmHost.Proofs.Monitor.Enabled
import VmHost.Proofs.Monitor.Guarded
import VmHost.Proofs.Monitor.Ledger
import VmHost.Proofs.Monitor.Ownership
import VmHost.Proofs.Monitor.Room
import VmHost.Proofs.Monitor.Line
import VmHost.Proofs.Monitor.Wait
import VmHost.Proofs.Monitor.Chronicle
import VmHost.Proofs.Monitor.Fifo
import VmHost.Proofs.Monitor.Wakeup
import VmHost.Proofs.Monitor.Delivery
import VmHost.Proofs.Monitor.Episode
import VmHost.Proofs.Monitor.Reentrancy
import VmHost.Proofs.Sync.Transition
import VmHost.Proofs.Sync.Sleep
import VmHost.Proofs.Sync.Waking
import VmHost.Proofs.Monitor.Cause
import VmHost.Proofs.Monitor.Interruption
import VmHost.Proofs.Monitor.Blocking
import VmHost.Proofs.Monitor.World
import VmHost.Proofs.Monitor.Handoff
import VmHost.Proofs.Monitor.LockOrder
import VmHost.Proofs.Monitor.Contract
import VmHost.Proofs.Monitor.Trespass
import VmHost.Proofs.Thread.Join
import VmHost.Proofs.Run
import VmHost.Proofs.Inspect.Transition
import VmHost.Proofs.Inspect.Handshake
import VmHost.Proofs.Inspect.Target
import VmHost.Proofs.Fault.Transition
import VmHost.Proofs.Fault.Keeping
import VmHost.Proofs.Fault.Reclamation
import VmHost.Proofs.Fault.Call
import VmHost.Proofs.Fault.Custody
import VmHost.Proofs.Fault.Booking
import VmHost.Proofs.Fault.Escalation
import VmHost.Proofs.Config.Acceptance
import VmHost.Proofs.Thread.Lifecycle
import VmHost.Proofs.Snapshot.Place
import VmHost.Proofs.Snapshot.Naming
import VmHost.Proofs.Snapshot.Destination
import VmHost.Proofs.Snapshot.Collection
import VmHost.Proofs.Call.Marshalling
import VmHost.Proofs.Snapshot.Frames
import VmHost.Proofs.Fault.Discretion
import VmHost.Proofs.Fault.Portrait
import VmHost.Proofs.Fault.Registration
import VmHost.Proofs.Fault.Effect
import VmHost.Proofs.Inspect.Exclusion
import VmHost.Proofs.Inspect.Exchange
import VmHost.Proofs.Inspect.Engagement
import VmHost.Proofs.Inspect.Registers
import VmHost.Proofs.Inspect.Withdrawal
import VmHost.Proofs.Inspect.Deadline
import VmHost.Proofs.Log.Settings
