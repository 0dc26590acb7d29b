import EventLog.Calendar
import EventLog.CommandLine
import EventLog.Config
import EventLog.Console.Address
import EventLog.Console.Command
import EventLog.Console.Session
import EventLog.Console.Settings
import EventLog.Console.Source
import EventLog.Context
import EventLog.Error
import EventLog.Event
import EventLog.EventType
import EventLog.Host
import EventLog.Host.Kept
import EventLog.Instant
import EventLog.Main
import EventLog.Memory
import EventLog.Output
import EventLog.Proofs.Console.Conversation
import EventLog.Proofs.Console.Deed
import EventLog.Proofs.Console.Framing
import EventLog.Proofs.Console.Interpreter
import EventLog.Proofs.Console.Line
import EventLog.Proofs.Console.Mirror
import EventLog.Proofs.Console.Progress
import EventLog.Proofs.Console.Selection
import EventLog.Proofs.Console.Session
import EventLog.Proofs.Host.Allocation
import EventLog.Proofs.Host.Books
import EventLog.Proofs.Host.Bracket
import EventLog.Proofs.Host.Console
import EventLog.Proofs.Host.Crew
import EventLog.Proofs.Host.Deletion
import EventLog.Proofs.Host.Depth
import EventLog.Proofs.Host.Disabled
import EventLog.Proofs.Host.Dump
import EventLog.Proofs.Host.Effect
import EventLog.Proofs.Host.Failure
import EventLog.Proofs.Host.Fidelity
import EventLog.Proofs.Host.Kept
import EventLog.Proofs.Host.Lock
import EventLog.Proofs.Host.Logging
import EventLog.Proofs.Host.Payload
import EventLog.Proofs.Host.Peer
import EventLog.Proofs.Host.Rebirth
import EventLog.Proofs.Host.Registrations
import EventLog.Proofs.Host.Solo
import EventLog.Proofs.Host.Switch
import EventLog.Proofs.Instant.Calendar
import EventLog.Proofs.Instant.Stamp
import EventLog.Proofs.Output.Endless
import EventLog.Proofs.Output.Limited
import EventLog.Proofs.Output.Orderly
import EventLog.Proofs.Registry.Lookup
import EventLog.Proofs.Registry.Numbering
import EventLog.Proofs.Registry.Roll
import EventLog.Proofs.Registry.Succession
import EventLog.Proofs.Registry.Validity
import EventLog.Proofs.Renderer.HexDump
import EventLog.Proofs.Renderer.Lines
import EventLog.Proofs.Renderer.Row
import EventLog.Proofs.Report.Legible
import EventLog.Proofs.Report.Margin
import EventLog.Proofs.Report.Orderly
import EventLog.Proofs.Ring.Account
import EventLog.Proofs.Ring.Dump
import EventLog.Proofs.Ring.History
import EventLog.Proofs.Ring.Reset
import EventLog.Proofs.Ring.Rotation
import EventLog.Proofs.Ring.Sequence
import EventLog.Proofs.Ring.Settled
import EventLog.Proofs.Ring.Slot
import EventLog.Proofs.Ring.Traffic
import EventLog.Proofs.SlotClaim.Exclusion
import EventLog.Proofs.Store.Access
import EventLog.Proofs.Store.Allocation
import EventLog.Proofs.Store.Bracket
import EventLog.Proofs.Store.Clearing
import EventLog.Proofs.Store.Default
import EventLog.Proofs.Store.Entries
import EventLog.Proofs.Store.Failure
import EventLog.Proofs.Store.Held
import EventLog.Proofs.Store.Ledger
import EventLog.Proofs.Store.Lifecycle
import EventLog.Proofs.Store.Lock
import EventLog.Proofs.Store.Objection
import EventLog.Proofs.Store.Payload
import EventLog.Proofs.Store.Progress
import EventLog.Proofs.Store.Quiet
import EventLog.Proofs.Store.Switch
import EventLog.Proofs.Store.Table
import EventLog.Proofs.Store.Write
import EventLog.Proofs.Text.Blank
import EventLog.Proofs.Text.Boundary
import EventLog.Proofs.Text.Cut
import EventLog.Proofs.Text.Field
import EventLog.Proofs.Text.Numeral
import EventLog.Proofs.Text.Utf8
import EventLog.Registry
import EventLog.Renderer
import EventLog.Renderer.Backtrace
import EventLog.Renderer.HexDump
import EventLog.Report.Event
import EventLog.Report.Store
import EventLog.Ring
import EventLog.Ring.Slot
import EventLog.SlotClaim
import EventLog.SpinLock
import EventLog.Store
import EventLog.Store.GlobalLock
import EventLog.Store.Lifecycle
import EventLog.Store.Table
import EventLog.Store.Write
import EventLog.Text.Blank
import EventLog.Text.Field
import EventLog.Text.Fit
import EventLog.Text.GraphemeExtend
import EventLog.Text.Lines
import EventLog.Text.Numeral
import EventLog.Text.Quoted
import EventLog.Text.Unprintable
import EventLog.Text.Utf8
