import LaneQuota.Calendar.Date
import LaneQuota.Calendar.Instant
import LaneQuota.Calendar.Timestamp
import LaneQuota.Calendar.Zone
import LaneQuota.Calendar.ZoneTable
import LaneQuota.Command.Arguments
import LaneQuota.Command.Run
import LaneQuota.Decimal.Binary
import LaneQuota.Decimal.Notation
import LaneQuota.Decimal.Reader
import LaneQuota.Decimal.Shortest
import LaneQuota.Fault
import LaneQuota.Json.Basic
import LaneQuota.Json.Number
import LaneQuota.Json.Reader
import LaneQuota.Json.Record
import LaneQuota.Json.Writer
import LaneQuota.Ledger.Basic
import LaneQuota.Ledger.Bucket
import LaneQuota.Ledger.Decision
import LaneQuota.Ledger.Encoding
import LaneQuota.Ledger.Operation
import LaneQuota.Ledger.Query
import LaneQuota.Ledger.State
import LaneQuota.Ledger.Usage
import LaneQuota.Main
import LaneQuota.Proofs.Calendar.DayOrder
import LaneQuota.Proofs.Calendar.Days
import LaneQuota.Proofs.Calendar.HourOrder
import LaneQuota.Proofs.Calendar.Timestamps
import LaneQuota.Proofs.Decimal.Shortest
import LaneQuota.Proofs.Double.Arithmetic
import LaneQuota.Proofs.Double.Bits
import LaneQuota.Proofs.Double.Division
import LaneQuota.Proofs.Double.Machine
import LaneQuota.Proofs.Double.Narrowing
import LaneQuota.Proofs.Double.Rounding
import LaneQuota.Proofs.Json.Documents
import LaneQuota.Proofs.Json.Numbers
import LaneQuota.Proofs.Json.Records
import LaneQuota.Proofs.Json.Texts
import LaneQuota.Proofs.Json.WholeDoubles
import LaneQuota.Proofs.Lane.Texts
import LaneQuota.Proofs.Ledger.Accounts
import LaneQuota.Proofs.Ledger.Alike
import LaneQuota.Proofs.Ledger.Balance
import LaneQuota.Proofs.Ledger.Books
import LaneQuota.Proofs.Ledger.Callers
import LaneQuota.Proofs.Ledger.Cell
import LaneQuota.Proofs.Ledger.Charges
import LaneQuota.Proofs.Ledger.Clearing
import LaneQuota.Proofs.Ledger.Contents
import LaneQuota.Proofs.Ledger.Costs
import LaneQuota.Proofs.Ledger.DailyLimit
import LaneQuota.Proofs.Ledger.Demand
import LaneQuota.Proofs.Ledger.Denials
import LaneQuota.Proofs.Ledger.Effects
import LaneQuota.Proofs.Ledger.Exhaustion
import LaneQuota.Proofs.Ledger.Gains
import LaneQuota.Proofs.Ledger.Headroom
import LaneQuota.Proofs.Ledger.Histories
import LaneQuota.Proofs.Ledger.HourlyLogs
import LaneQuota.Proofs.Ledger.Hours
import LaneQuota.Proofs.Ledger.Interleavings
import LaneQuota.Proofs.Ledger.InvalidCosts
import LaneQuota.Proofs.Ledger.Journal
import LaneQuota.Proofs.Ledger.Latch
import LaneQuota.Proofs.Ledger.Lifecycles
import LaneQuota.Proofs.Ledger.LifetimeLimit
import LaneQuota.Proofs.Ledger.Looking
import LaneQuota.Proofs.Ledger.Orphans
import LaneQuota.Proofs.Ledger.Outstanding
import LaneQuota.Proofs.Ledger.Overflow
import LaneQuota.Proofs.Ledger.Queries
import LaneQuota.Proofs.Ledger.Reconciliation
import LaneQuota.Proofs.Ledger.Reports
import LaneQuota.Proofs.Ledger.Reservations
import LaneQuota.Proofs.Ledger.Revisits
import LaneQuota.Proofs.Ledger.Rewrites
import LaneQuota.Proofs.Ledger.Rooms
import LaneQuota.Proofs.Ledger.Rows
import LaneQuota.Proofs.Ledger.Runs
import LaneQuota.Proofs.Ledger.Sanitizing
import LaneQuota.Proofs.Ledger.Separation
import LaneQuota.Proofs.Ledger.SharedPool
import LaneQuota.Proofs.Ledger.Steps
import LaneQuota.Proofs.Ledger.Stored
import LaneQuota.Proofs.Ledger.Threshold
import LaneQuota.Proofs.Ledger.Tracking
import LaneQuota.Proofs.Ledger.Turns
import LaneQuota.Proofs.Ledger.Unsaved
import LaneQuota.Proofs.Ledger.Unwinding
import LaneQuota.Proofs.Route.Auditing
import LaneQuota.Proofs.Route.Fallback
import LaneQuota.Proofs.Route.Guarding
import LaneQuota.Proofs.Route.Malformed
import LaneQuota.Proofs.Route.Planning
import LaneQuota.Proofs.Route.Reasons
import LaneQuota.Proofs.Route.Rereading
import LaneQuota.Proofs.Route.Safety
import LaneQuota.Proofs.Settings.Lanes
import LaneQuota.Proofs.Storage.Acceptance
import LaneQuota.Proofs.Storage.Continuation
import LaneQuota.Proofs.Storage.Debts
import LaneQuota.Proofs.Storage.Reopening
import LaneQuota.Proofs.Storage.Restart
import LaneQuota.Proofs.Storage.Trees
import LaneQuota.Proofs.Storage.Writes
import LaneQuota.Report.Fetch
import LaneQuota.Report.Reconcile
import LaneQuota.Route.Audit
import LaneQuota.Route.Basic
import LaneQuota.Route.Encoding
import LaneQuota.Route.Guard
import LaneQuota.Route.Plan
import LaneQuota.Route.Resolve
import LaneQuota.Route.Signals
import LaneQuota.Settings.Basic
import LaneQuota.Settings.Document
import LaneQuota.Settings.Encoding
import LaneQuota.Settings.Issue
import LaneQuota.Settings.Limits
import LaneQuota.SortedMap
import LaneQuota.Storage.DurableLedger
import LaneQuota.Storage.FileTree
import LaneQuota.Storage.StateFile
import LaneQuota.Text.Basic
import LaneQuota.Text.CaseTable
import LaneQuota.Text.Lowercase
import LaneQuota.Toml.Reader
import LaneQuota.Toml.Scalar
import LaneQuota.Toml.Table
import LaneQuota.Toml.Text
import LaneQuota.Toml.Writer
import LaneQuota.Web.Address
import LaneQuota.Web.Host
import LaneQuota.Web.Name
import LaneQuota.Web.NameTable
import LaneQuota.Web.Percent
import LaneQuota.Web.Punycode
import LaneQuota.Web.Status
