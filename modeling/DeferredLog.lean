import DeferredLog.Config.Codec
import DeferredLog.Cursor
import DeferredLog.FileTree
import DeferredLog.Report.Codec
import DeferredLog.Report.Host
import DeferredLog.Subsystem
import DeferredLog.Text.Pattern
import DeferredLog.Proofs.Draft.Cut
import DeferredLog.Proofs.Cell.Mailbox
import DeferredLog.Proofs.Buffer.Plan
import DeferredLog.Proofs.Buffer.Runs
import DeferredLog.Proofs.Pipeline.Effects
import DeferredLog.Proofs.Pipeline.Course
import DeferredLog.Proofs.Pipeline.Ledger
import DeferredLog.Proofs.Pipeline.Delivery
import DeferredLog.Proofs.Subsystem.Start
import DeferredLog.Proofs.Pending.Line
import DeferredLog.Proofs.Pending.Wakeups
import DeferredLog.Proofs.Pipeline.Interleaving
import DeferredLog.Proofs.Pending.Sole
import DeferredLog.Proofs.Pipeline.Work
import DeferredLog.Proofs.Pipeline.Polls
import DeferredLog.Proofs.Pipeline.Alertness
import DeferredLog.Proofs.Pipeline.Moves
import DeferredLog.Proofs.Pipeline.Settling
import DeferredLog.Proofs.Pipeline.Teardown
import DeferredLog.Proofs.Pipeline.Lockstep
import DeferredLog.Proofs.Subsystem.Accounts
import DeferredLog.Proofs.Pipeline.Cadence
import DeferredLog.Proofs.Subsystem.Undisturbed
import DeferredLog.Proofs.Json.Document
import DeferredLog.Proofs.Json.Scanning
import DeferredLog.Proofs.Json.Skipping
import DeferredLog.Proofs.Json.Reading
import DeferredLog.Proofs.Json.Records
import DeferredLog.Proofs.Json.Unordered
import DeferredLog.Proofs.Config.Spans
import DeferredLog.Proofs.Config.Decoding
import DeferredLog.Proofs.Json.Compact
import DeferredLog.Proofs.Config.RoundTrip
import DeferredLog.Proofs.Buffer.Atomicity
import DeferredLog.Proofs.Buffer.Capacity
import DeferredLog.Proofs.Buffer.Reading
import DeferredLog.Proofs.Cursor.Trail
import DeferredLog.Proofs.FileTree.Kept
import DeferredLog.Proofs.Report.Installing
import DeferredLog.Proofs.Cursor.Seeking
import DeferredLog.Proofs.Cell.Writing
import DeferredLog.Proofs.Pipeline.Bursts
import DeferredLog.Proofs.Pipeline.Rate
import DeferredLog.Proofs.Json.Recovery
import DeferredLog.Proofs.Report.RoundTrip
import DeferredLog.Proofs.Json.Truncation
import DeferredLog.Proofs.Config.Truncation
import DeferredLog.Proofs.Pipeline.Surroundings
import DeferredLog.Proofs.Pipeline.Itinerary
import DeferredLog.Proofs.Pipeline.Breakdown
import DeferredLog.Proofs.Subsystem.Breakdown
import DeferredLog.Proofs.Producer.Timer
import DeferredLog.Proofs.Text.ByteOrder
import DeferredLog.Proofs.Report.Directives
import DeferredLog.Proofs.Cell.Uses
import DeferredLog.Proofs.Buffer.Passes
