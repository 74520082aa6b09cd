import PerfTimeline.Binary64
import PerfTimeline.Clock
import PerfTimeline.Decimal.Shortest
import PerfTimeline.Entry.Basic
import PerfTimeline.Entry.Kind
import PerfTimeline.Entry.Order
import PerfTimeline.Entry.PerType
import PerfTimeline.Entry.Record
import PerfTimeline.Error
import PerfTimeline.Host.Call
import PerfTimeline.Host.Perform
import PerfTimeline.Host.Session
import PerfTimeline.Host.State
import PerfTimeline.Json.Decode
import PerfTimeline.Json.Fault
import PerfTimeline.Json.Flaw
import PerfTimeline.Json.Members
import PerfTimeline.Json.Numeral
import PerfTimeline.Json.Reader
import PerfTimeline.Json.Text
import PerfTimeline.Json.Value
import PerfTimeline.LogSink
import PerfTimeline.Module.Basic
import PerfTimeline.Module.Measure
import PerfTimeline.Observer.Basic
import PerfTimeline.Observer.Filter
import PerfTimeline.Observer.Registry
import PerfTimeline.Observer.Request
import PerfTimeline.Proofs.Delivery.Disconnection
import PerfTimeline.Proofs.Delivery.Dispatch
import PerfTimeline.Proofs.Delivery.ExactlyOnce
import PerfTimeline.Proofs.Delivery.Hearing
import PerfTimeline.Proofs.Delivery.Independence
import PerfTimeline.Proofs.Delivery.Interleaved
import PerfTimeline.Proofs.Delivery.Isolation
import PerfTimeline.Proofs.Delivery.LateSubscription
import PerfTimeline.Proofs.Delivery.Merging
import PerfTimeline.Proofs.Delivery.Pending
import PerfTimeline.Proofs.Delivery.Reentrant
import PerfTimeline.Proofs.Delivery.Refinement
import PerfTimeline.Proofs.Delivery.Regular
import PerfTimeline.Proofs.Delivery.Turns
import PerfTimeline.Proofs.Entry.Stable
import PerfTimeline.Proofs.Json.Arrangement
import PerfTimeline.Proofs.Json.Members
import PerfTimeline.Proofs.Json.Overriding
import PerfTimeline.Proofs.Json.Passing
import PerfTimeline.Proofs.Json.Simple
import PerfTimeline.Proofs.Json.Written
import PerfTimeline.Proofs.Module.Agreement
import PerfTimeline.Proofs.Module.Measuring
import PerfTimeline.Proofs.Module.Overlap
import PerfTimeline.Proofs.Module.Queries
import PerfTimeline.Proofs.Observer.Enrollment
import PerfTimeline.Proofs.Observer.Filling
import PerfTimeline.Proofs.Observer.Reference
import PerfTimeline.Proofs.Retention.Eviction
import PerfTimeline.Proofs.Retention.Ledger
import PerfTimeline.Proofs.Retention.Ordered
import PerfTimeline.Proofs.Retention.Reachable
import PerfTimeline.Proofs.Task.Rounds
import PerfTimeline.Proofs.Timeline.Accounting
import PerfTimeline.Proofs.Timeline.Calls
import PerfTimeline.Proofs.Timeline.Chronicle
import PerfTimeline.Proofs.Timeline.EventHistory
import PerfTimeline.Proofs.Timeline.History
import PerfTimeline.Proofs.Timeline.Journal
import PerfTimeline.Proofs.Timeline.MarkLookup
import PerfTimeline.Proofs.Timeline.Merge
import PerfTimeline.Proofs.Timeline.Mirror
import PerfTimeline.Proofs.Timeline.Narrative
import PerfTimeline.Proofs.Timeline.Operation
import PerfTimeline.Proofs.Timeline.Passive
import PerfTimeline.Proofs.Timeline.Pending
import PerfTimeline.Proofs.Timeline.Pointwise
import PerfTimeline.Proofs.Timeline.Recording
import PerfTimeline.Proofs.Timeline.Registries
import PerfTimeline.Proofs.Timeline.Removal
import PerfTimeline.Proofs.Timeline.Sound
import PerfTimeline.Proofs.Timeline.Told
import PerfTimeline.Proofs.Timeline.TraceLog
import PerfTimeline.Proofs.Timeline.Transcript
import PerfTimeline.Proofs.Timeline.TypeIsolation
import PerfTimeline.Proofs.Wire.Arrangement
import PerfTimeline.Proofs.Wire.Entry
import PerfTimeline.Proofs.Wire.Exchange
import PerfTimeline.Proofs.Wire.Record
import PerfTimeline.Proofs.Wire.Settings
import PerfTimeline.Retention.Buffer
import PerfTimeline.Retention.EventCounts
import PerfTimeline.Retention.Family
import PerfTimeline.Retention.Recorder
import PerfTimeline.Startup
import PerfTimeline.Task.Executor
import PerfTimeline.Task.Priority
import PerfTimeline.Text.Printable
import PerfTimeline.Text.Quoted
import PerfTimeline.Time
import PerfTimeline.Timeline.Basic
import PerfTimeline.Timeline.Delivery
import PerfTimeline.Timeline.Subscription
import PerfTimeline.Trace
import PerfTimeline.Wire.Entry
import PerfTimeline.Wire.EntryType
import PerfTimeline.Wire.Record
import PerfTimeline.Wire.Request
import PerfTimeline.Wire.Settings
import PerfTimeline.Proofs.Timeline.Coupling
import PerfTimeline.Proofs.Timeline.OnDemand
