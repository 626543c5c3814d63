import ApiSurface.Backoff
import ApiSurface.Cluster.Access
import ApiSurface.Cluster.Endpoint
import ApiSurface.Config
import ApiSurface.Crd.Identity
import ApiSurface.Crd.Info
import ApiSurface.Crd.Name
import ApiSurface.Crd.Waiter
import ApiSurface.Decimal.Double
import ApiSurface.Decimal.Fixed
import ApiSurface.Decimal.Numeral
import ApiSurface.Decimal.Shortest
import ApiSurface.Fault
import ApiSurface.Health
import ApiSurface.LogEntry
import ApiSurface.LogRecord
import ApiSurface.Main
import ApiSurface.Metrics
import ApiSurface.Proofs.Discovery.Answers
import ApiSurface.Proofs.Scan.Augmentation
import ApiSurface.Proofs.Snapshot.Equality
import ApiSurface.Proofs.Snapshot.Merge
import ApiSurface.Proofs.Snapshot.Signature
import ApiSurface.Proofs.Tracker.History
import ApiSurface.Proofs.Tracker.Moves
import ApiSurface.RateLimit
import ApiSurface.RateLimit.Job
import ApiSurface.Redaction
import ApiSurface.Resource
import ApiSurface.Retry
import ApiSurface.Scalar
import ApiSurface.Scan
import ApiSurface.Service.Startup
import ApiSurface.Snapshot
import ApiSurface.Text.Basic
import ApiSurface.Text.Blank
import ApiSurface.Text.Case
import ApiSurface.Text.Case.Table
import ApiSurface.Text.CodePoint
import ApiSurface.Text.Digit
import ApiSurface.Text.Escaped
import ApiSurface.Text.Printable
import ApiSurface.Text.Quoted
import ApiSurface.Text.Ranges
import ApiSurface.Text.Template
import ApiSurface.Text.Word
import ApiSurface.Timestamp
import ApiSurface.Tracker.Known
import ApiSurface.Tracker.Lifecycle
import ApiSurface.Tracker.Nested
import ApiSurface.Tracker.Notify
import ApiSurface.Tracker.Operation
import ApiSurface.Tracker.Pass
import ApiSurface.Tracker.Rebuild
import ApiSurface.Tracker.Run
import ApiSurface.Tracker.Schedule
import ApiSurface.Tracker.State
import ApiSurface.Tracker.Watch
import ApiSurface.Value.Basic
import ApiSurface.Value.Number
import ApiSurface.Value.Reader
import ApiSurface.Value.Text
import ApiSurface.Value.Writer
import ApiSurface.WatchEvent
import ApiSurface.Proofs.Tracker.Consistency
import ApiSurface.Proofs.Tracker.Lock
import ApiSurface.Proofs.Tracker.Pass
import ApiSurface.Proofs.Tracker.Rebuild
import ApiSurface.Proofs.Tracker.Atomicity
import ApiSurface.Proofs.Tracker.Calls
import ApiSurface.Proofs.Tracker.Operations
import ApiSurface.Proofs.Tracker.Installed
import ApiSurface.Proofs.Tracker.Changes
import ApiSurface.Proofs.Tracker.Recovery
import ApiSurface.Proofs.Discovery.Pool
import ApiSurface.Proofs.Discovery.Stopping
import ApiSurface.Proofs.Discovery.Sameness
import ApiSurface.Proofs.Scan.Tidy
import ApiSurface.Proofs.Snapshot.Reordering
import ApiSurface.Proofs.Value.Equality
import ApiSurface.Proofs.Tracker.Accounts
import ApiSurface.Proofs.Tracker.Asking
import ApiSurface.Proofs.Tracker.Events
import ApiSurface.Proofs.Tracker.Identities
import ApiSurface.Proofs.Tracker.Known
import ApiSurface.Proofs.Tracker.Notification
import ApiSurface.Proofs.Tracker.Blame
import ApiSurface.Proofs.Tracker.Tellings
import ApiSurface.Proofs.Tracker.PassOrder
import ApiSurface.Proofs.Tracker.Stability
import ApiSurface.Proofs.Tracker.Containment
import ApiSurface.Proofs.Tracker.Protection
import ApiSurface.Proofs.Tracker.Steps
import ApiSurface.Proofs.Tracker.Starting
import ApiSurface.Proofs.Tracker.Stepping
import ApiSurface.Proofs.Tracker.StepwiseRuns
import ApiSurface.Proofs.Tracker.Spacing
import ApiSurface.Proofs.Tracker.Loops
import ApiSurface.Proofs.Tracker.Quiescence
import ApiSurface.Proofs.Tracker.Readiness
import ApiSurface.Proofs.Event.Decoding
import ApiSurface.Proofs.Tracker.Ledger
import ApiSurface.Proofs.Tracker.Streams
import ApiSurface.Proofs.Tracker.Outcomes
import ApiSurface.Proofs.Tracker.Gauge
import ApiSurface.Proofs.Tracker.Discipline
import ApiSurface.Proofs.Tracker.Interruption
import ApiSurface.Proofs.Tracker.Course
import ApiSurface.Proofs.Tracker.Overlooking
import ApiSurface.Proofs.Tracker.Removal
import ApiSurface.Proofs.Tracker.Reconnection
import ApiSurface.Proofs.Tracker.Watching
import ApiSurface.Proofs.Snapshot.Pairing
import ApiSurface.Proofs.Scan.Layout
import ApiSurface.Proofs.Event.Forms
import ApiSurface.Proofs.Crd.Waiting
import ApiSurface.Proofs.Crd.Tolerance
import ApiSurface.Proofs.Backoff
import ApiSurface.Proofs.Backoff.Steps
import ApiSurface.Proofs.RateLimit
import ApiSurface.Proofs.Retry.Schedule
import ApiSurface.Proofs.Crd.Deadline
import ApiSurface.Proofs.Tracker.Startup
import ApiSurface.Proofs.Tracker.Refreshing
import ApiSurface.Proofs.Text.Fields
import ApiSurface.Proofs.Config.Listing
import ApiSurface.Proofs.Config.Validation
import ApiSurface.Proofs.Redaction.Replacement
import ApiSurface.Proofs.Redaction.Words
import ApiSurface.Proofs.Redaction.Kinds
import ApiSurface.Proofs.Redaction.Coverage
import ApiSurface.Proofs.Redaction.Secrecy
import ApiSurface.Proofs.Redaction.Joining
import ApiSurface.Proofs.Redaction.Tokens
import ApiSurface.Proofs.Service.Release
import ApiSurface.Proofs.Success
import ApiSurface.Proofs.Text.Escaping
import ApiSurface.Proofs.Text.Filling
import ApiSurface.Proofs.Value.Reading
import ApiSurface.Proofs.LogRecord
import ApiSurface.Proofs.Tracker.Requests
import ApiSurface.Proofs.Tracker.Shifts
import ApiSurface.Proofs.Discovery.Paths
