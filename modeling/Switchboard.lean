import Switchboard.Agent
import Switchboard.CommandLine.Arguments
import Switchboard.CommandLine.Command
import Switchboard.CommandLine.Execution
import Switchboard.CommandLine.Help
import Switchboard.CommandLine.Parser
import Switchboard.CommandLine.Program
import Switchboard.Configuration
import Switchboard.Environment
import Switchboard.Event
import Switchboard.EventLog
import Switchboard.Failure
import Switchboard.FailureKind
import Switchboard.Handle
import Switchboard.Json.Reader
import Switchboard.Json.Value
import Switchboard.Listing
import Switchboard.Mailbox
import Switchboard.Main
import Switchboard.Message
import Switchboard.Notice
import Switchboard.Operation
import Switchboard.Proofs.Announcing
import Switchboard.Proofs.Aside
import Switchboard.Proofs.Atomicity
import Switchboard.Proofs.Availability
import Switchboard.Proofs.Backoff
import Switchboard.Proofs.Call
import Switchboard.Proofs.Chronicle
import Switchboard.Proofs.CommandLine.Arguments
import Switchboard.Proofs.CommandLine.Body
import Switchboard.Proofs.CommandLine.Delivery
import Switchboard.Proofs.CommandLine.Ending
import Switchboard.Proofs.CommandLine.Errand
import Switchboard.Proofs.CommandLine.Grammar
import Switchboard.Proofs.CommandLine.Pieces
import Switchboard.Proofs.CommandLine.RoundTrip
import Switchboard.Proofs.CommandLine.Splitting
import Switchboard.Proofs.CommandLine.Suggestion
import Switchboard.Proofs.CommandLine.Take
import Switchboard.Proofs.Composition
import Switchboard.Proofs.Configuration
import Switchboard.Proofs.Connection
import Switchboard.Proofs.Contention
import Switchboard.Proofs.Density
import Switchboard.Proofs.Directory
import Switchboard.Proofs.Effect
import Switchboard.Proofs.EventLog.PipelineState
import Switchboard.Proofs.EventLog.Selection
import Switchboard.Proofs.EventLog.Tailing
import Switchboard.Proofs.Handles
import Switchboard.Proofs.History
import Switchboard.Proofs.Indifference
import Switchboard.Proofs.Json.Reading
import Switchboard.Proofs.Ledger
import Switchboard.Proofs.Listing.Bodies
import Switchboard.Proofs.Listing.Events
import Switchboard.Proofs.Listing.Json
import Switchboard.Proofs.Listing.Rows
import Switchboard.Proofs.Listing.Tasks
import Switchboard.Proofs.Looking
import Switchboard.Proofs.Mailbox.Availability
import Switchboard.Proofs.Mailbox.Claim
import Switchboard.Proofs.Mailbox.Delivery
import Switchboard.Proofs.Mailbox.Draining
import Switchboard.Proofs.Mailbox.Effect
import Switchboard.Proofs.Mailbox.Queue
import Switchboard.Proofs.Mailbox.SinglePass
import Switchboard.Proofs.Mailbox.Snapshot
import Switchboard.Proofs.Mailbox.Trail
import Switchboard.Proofs.Numbering
import Switchboard.Proofs.Outcome
import Switchboard.Proofs.Polling
import Switchboard.Proofs.Reading
import Switchboard.Proofs.Reception
import Switchboard.Proofs.Registry.Availability
import Switchboard.Proofs.Registry.Bracket
import Switchboard.Proofs.Registry.Cleaning
import Switchboard.Proofs.Registry.Effect
import Switchboard.Proofs.Registry.Recording
import Switchboard.Proofs.Registry.Roster
import Switchboard.Proofs.Statement
import Switchboard.Proofs.TaskQueue.Blocking
import Switchboard.Proofs.TaskQueue.Dependency
import Switchboard.Proofs.TaskQueue.Dispatch
import Switchboard.Proofs.TaskQueue.Effect
import Switchboard.Proofs.TaskQueue.Lifecycle
import Switchboard.Proofs.TaskQueue.Priority
import Switchboard.Proofs.TaskQueue.Readiness
import Switchboard.Proofs.TaskQueue.Runnable
import Switchboard.Proofs.TaskQueue.Verdict
import Switchboard.Proofs.Text.ByteOrder
import Switchboard.Proofs.Text.EditDistance
import Switchboard.Proofs.Text.Margin
import Switchboard.Proofs.Text.Numeral
import Switchboard.Proofs.Text.Utf8
import Switchboard.Proofs.Time.Calendar
import Switchboard.Proofs.Time.Reading
import Switchboard.Proofs.Waiting
import Switchboard.Proofs.Writing
import Switchboard.Receive
import Switchboard.Registry
import Switchboard.Store.Address
import Switchboard.Store.Archive
import Switchboard.Store.Cell
import Switchboard.Store.Directory
import Switchboard.Store.EngineError
import Switchboard.Store.Record
import Switchboard.Store.Schema
import Switchboard.Store.Statement
import Switchboard.Store.Table
import Switchboard.Store.Tables
import Switchboard.Store.Tampering
import Switchboard.Task
import Switchboard.TaskQueue
import Switchboard.Text.Alphanumeric
import Switchboard.Text.Blank
import Switchboard.Text.EditDistance
import Switchboard.Text.Literal
import Switchboard.Text.Numeral
import Switchboard.Text.Position
import Switchboard.Text.Utf8
import Switchboard.Time.Calendar
import Switchboard.Time.Reader
import Switchboard.Time.Stored
import Switchboard.Time.Timestamp
import Switchboard.Transaction
import Switchboard.Vocabulary
