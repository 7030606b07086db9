import RecordSync.Calendar.Date
import RecordSync.Calendar.Duration
import RecordSync.Calendar.Instant
import RecordSync.Calendar.Reading
import RecordSync.Calendar.Text
import RecordSync.Change.Payload
import RecordSync.Change.Plan
import RecordSync.Command.Arguments
import RecordSync.Command.Basic
import RecordSync.Command.Grammar
import RecordSync.Command.Inspect
import RecordSync.Command.Machine
import RecordSync.Command.Program
import RecordSync.Command.Report
import RecordSync.Command.Setting
import RecordSync.Command.Style
import RecordSync.Command.Sync
import RecordSync.Digest.Sha256
import RecordSync.Failure
import RecordSync.Fault
import RecordSync.Feed.Basic
import RecordSync.Feed.Lines
import RecordSync.Files.Path
import RecordSync.Files.Tree
import RecordSync.Interchange.Record
import RecordSync.Interchange.Report
import RecordSync.Interchange.StoreFile
import RecordSync.Json.Document
import RecordSync.Json.Text
import RecordSync.Json.Token
import RecordSync.Json.Value
import RecordSync.Main
import RecordSync.Number.Binary64
import RecordSync.Number.Shortest
import RecordSync.Number.Word
import RecordSync.Proofs.Accounting
import RecordSync.Proofs.Agreement
import RecordSync.Proofs.Alone
import RecordSync.Proofs.Answering
import RecordSync.Proofs.Apply
import RecordSync.Proofs.Arrival
import RecordSync.Proofs.Attempts
import RecordSync.Proofs.Backoff
import RecordSync.Proofs.Calm
import RecordSync.Proofs.CaughtUp
import RecordSync.Proofs.Ceiling
import RecordSync.Proofs.Chains
import RecordSync.Proofs.Chronicle
import RecordSync.Proofs.Civil
import RecordSync.Proofs.Concord
import RecordSync.Proofs.Contest
import RecordSync.Proofs.Convergence
import RecordSync.Proofs.Coverage
import RecordSync.Proofs.Cursors
import RecordSync.Proofs.Custody
import RecordSync.Proofs.DateGrammar
import RecordSync.Proofs.DateText
import RecordSync.Proofs.Decoded
import RecordSync.Proofs.Draining
import RecordSync.Proofs.DryRun
import RecordSync.Proofs.DryWindow
import RecordSync.Proofs.Exec
import RecordSync.Proofs.Feed
import RecordSync.Proofs.Fingerprints
import RecordSync.Proofs.Foresight
import RecordSync.Proofs.Handling
import RecordSync.Proofs.Independence
import RecordSync.Proofs.Interleaving
import RecordSync.Proofs.Invariant
import RecordSync.Proofs.Isolation
import RecordSync.Proofs.LastWord
import RecordSync.Proofs.Layers
import RecordSync.Proofs.Ledger
import RecordSync.Proofs.Lifetime
import RecordSync.Proofs.Limits
import RecordSync.Proofs.Lines
import RecordSync.Proofs.Mirror
import RecordSync.Proofs.NearestDate
import RecordSync.Proofs.NormalForm
import RecordSync.Proofs.Orderly
import RecordSync.Proofs.Overtaking
import RecordSync.Proofs.Passage
import RecordSync.Proofs.PayloadGrammar
import RecordSync.Proofs.Pending
import RecordSync.Proofs.Places
import RecordSync.Proofs.Policy
import RecordSync.Proofs.Provenance
import RecordSync.Proofs.Register
import RecordSync.Proofs.Rendering
import RecordSync.Proofs.Repetition
import RecordSync.Proofs.Replaying
import RecordSync.Proofs.Rereading
import RecordSync.Proofs.RowMap
import RecordSync.Proofs.Runs
import RecordSync.Proofs.Splitting
import RecordSync.Proofs.Staleness
import RecordSync.Proofs.Succession
import RecordSync.Proofs.Tables
import RecordSync.Proofs.Trail
import RecordSync.Proofs.Utf8
import RecordSync.Proofs.Watermark
import RecordSync.Proofs.Window
import RecordSync.Proofs.Windows
import RecordSync.Record.Entity
import RecordSync.Record.Fingerprint
import RecordSync.Record.Mapping
import RecordSync.Record.Row
import RecordSync.Record.Snapshot
import RecordSync.Record.Vocabulary
import RecordSync.Run.Drain
import RecordSync.Run.Options
import RecordSync.Run.Planned
import RecordSync.Run.Script
import RecordSync.Run.Tally
import RecordSync.Run.Window
import RecordSync.Run.Worker
import RecordSync.Settings.Basic
import RecordSync.Settings.File
import RecordSync.Store.Address
import RecordSync.Store.Apply
import RecordSync.Store.Basic
import RecordSync.Store.Column
import RecordSync.Store.Cursor
import RecordSync.Store.Ledger
import RecordSync.Store.Log
import RecordSync.Store.Number
import RecordSync.Store.Outside
import RecordSync.Store.Replay
import RecordSync.Store.Rows
import RecordSync.Store.Status
import RecordSync.Text.Blank
import RecordSync.Text.Numeral
import RecordSync.Text.Utf8
