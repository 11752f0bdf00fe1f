import TamperWatch.Command.Arguments
import TamperWatch.Command.FuseVerify
import TamperWatch.Command.TelemetryReplay
import TamperWatch.Command.Workspace
import TamperWatch.Data.SortedMap
import TamperWatch.Decimal.Layout
import TamperWatch.Decimal.Shortest
import TamperWatch.Fuse.Attributes
import TamperWatch.Fuse.Audit
import TamperWatch.Fuse.Expectation
import TamperWatch.Fuse.Report
import TamperWatch.Fuse.RuleTable
import TamperWatch.Fuse.Value
import TamperWatch.Json.Basic
import TamperWatch.Json.Numeral
import TamperWatch.Json.Path
import TamperWatch.Json.Reader
import TamperWatch.Json.View
import TamperWatch.Json.Writer
import TamperWatch.Main
import TamperWatch.Proofs.Data.SortedMap
import TamperWatch.Proofs.Json.Path
import TamperWatch.Proofs.Telemetry.Aggregate
import TamperWatch.Proofs.Telemetry.Catalogue
import TamperWatch.Proofs.Telemetry.Delivery
import TamperWatch.Proofs.Telemetry.Discovery
import TamperWatch.Proofs.Telemetry.History
import TamperWatch.Proofs.Telemetry.Latch
import TamperWatch.Proofs.Telemetry.Run
import TamperWatch.Proofs.Text.Search
import TamperWatch.Settings.Basic
import TamperWatch.Settings.Document
import TamperWatch.Settings.Thresholds
import TamperWatch.Telemetry.Catalogue
import TamperWatch.Telemetry.Category
import TamperWatch.Telemetry.Classifier
import TamperWatch.Telemetry.Condition
import TamperWatch.Telemetry.Engine
import TamperWatch.Telemetry.Event
import TamperWatch.Telemetry.Payload
import TamperWatch.Telemetry.Reading
import TamperWatch.Telemetry.Replay
import TamperWatch.Telemetry.Rule
import TamperWatch.Telemetry.Sightings
import TamperWatch.Telemetry.Signal
import TamperWatch.Telemetry.SignalKind
import TamperWatch.Telemetry.Store
import TamperWatch.Telemetry.Topic
import TamperWatch.Text.Blank
import TamperWatch.Text.Numeral
import TamperWatch.Text.Reader
import TamperWatch.Text.Search
import TamperWatch.Time.Stamp
import TamperWatch.Toml.Document
import TamperWatch.Toml.Scalar
import TamperWatch.Toml.Section
import TamperWatch.Toml.Value
import TamperWatch.Proofs.Telemetry.Isolation
import TamperWatch.Proofs.Fuse.LostReadings
import TamperWatch.Proofs.Fuse.Readback
import TamperWatch.Proofs.Fuse.Consistency
import TamperWatch.Proofs.Telemetry.Commutation
import TamperWatch.Proofs.Telemetry.Scope
import TamperWatch.Proofs.Telemetry.Dominance
import TamperWatch.Proofs.Telemetry.Details
import TamperWatch.Proofs.Telemetry.Redelivery
import TamperWatch.Proofs.Telemetry.Classification
import TamperWatch.Proofs.Telemetry.WellFormed
import TamperWatch.Proofs.Command.ExitStatus
import TamperWatch.Proofs.Telemetry.Replay
import TamperWatch.Proofs.Telemetry.Order
import TamperWatch.Proofs.Text.Numeral
import TamperWatch.Proofs.Fuse.Coercion
import TamperWatch.Proofs.Fuse.Rendering
import TamperWatch.Proofs.Telemetry.Fields
import TamperWatch.Proofs.Data.FloatOrder
import TamperWatch.Proofs.Settings.Validation
import TamperWatch.Proofs.Telemetry.Topic
import TamperWatch.Proofs.Command.Arguments
import TamperWatch.Proofs.Command.Profiles
import TamperWatch.Proofs.Text.Utf8
import TamperWatch.Proofs.Telemetry.Decoding
import TamperWatch.Proofs.Json.Reader
import TamperWatch.Proofs.Text.Token
import TamperWatch.Proofs.Telemetry.Status
import TamperWatch.Proofs.Telemetry.Counts
import TamperWatch.Proofs.Telemetry.Diagnostics
import TamperWatch.Proofs.Telemetry.Lookup
import TamperWatch.Proofs.Fuse.Banner
import TamperWatch.Proofs.Telemetry.Severity
import TamperWatch.Proofs.Fuse.ReportLines
import TamperWatch.Proofs.Command.Replay
