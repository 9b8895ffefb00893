import FleetTelemetry.Cli.Args
import FleetTelemetry.Cli.Help
import FleetTelemetry.Cli.Run
import FleetTelemetry.Cli.Similar
import FleetTelemetry.Cli.Spec
import FleetTelemetry.Config.Path
import FleetTelemetry.Config.Service
import FleetTelemetry.Config.Setting
import FleetTelemetry.Config.Source
import FleetTelemetry.Dedup
import FleetTelemetry.Duration
import FleetTelemetry.Error
import FleetTelemetry.Files.Path
import FleetTelemetry.Files.Tree
import FleetTelemetry.Float.Bits
import FleetTelemetry.Float.Read
import FleetTelemetry.Float.Shortest
import FleetTelemetry.Float.Text
import FleetTelemetry.Halt
import FleetTelemetry.Http.Client
import FleetTelemetry.Http.Domain
import FleetTelemetry.Http.DomainData
import FleetTelemetry.Http.Message
import FleetTelemetry.Http.Punycode
import FleetTelemetry.Http.Script
import FleetTelemetry.Http.Server
import FleetTelemetry.Http.Url
import FleetTelemetry.Ini.Read
import FleetTelemetry.Json.Print
import FleetTelemetry.Json.Read
import FleetTelemetry.Json.Shape
import FleetTelemetry.Json.ShapeText
import FleetTelemetry.Json.Value
import FleetTelemetry.Json5.CharData
import FleetTelemetry.Json5.Read
import FleetTelemetry.Main
import FleetTelemetry.Peg.Parser
import FleetTelemetry.Poll.Cycle
import FleetTelemetry.Poll.Verdict
import FleetTelemetry.Record.Cell
import FleetTelemetry.Record.Convert
import FleetTelemetry.Record.Observation
import FleetTelemetry.Record.Schema
import FleetTelemetry.Request.Basic
import FleetTelemetry.Request.Cli
import FleetTelemetry.Request.Dedup
import FleetTelemetry.Request.Dispatch
import FleetTelemetry.Request.FileStore
import FleetTelemetry.Request.Input
import FleetTelemetry.Request.Loopback
import FleetTelemetry.Request.Mask
import FleetTelemetry.Request.Poll
import FleetTelemetry.Request.Vendor
import FleetTelemetry.Retry
import FleetTelemetry.Ron.Read
import FleetTelemetry.Settings
import FleetTelemetry.Sink.Batch
import FleetTelemetry.Sink.Deliver
import FleetTelemetry.Store.Entry
import FleetTelemetry.Store.File
import FleetTelemetry.Store.State
import FleetTelemetry.Text.Blank
import FleetTelemetry.Text.Compose
import FleetTelemetry.Text.ComposeData
import FleetTelemetry.Text.Lower
import FleetTelemetry.Text.Packed
import FleetTelemetry.Time.Calendar
import FleetTelemetry.Time.Loose
import FleetTelemetry.Time.Pattern
import FleetTelemetry.Time.Rfc3339
import FleetTelemetry.Time.Stamp
import FleetTelemetry.Time.Window
import FleetTelemetry.Toml.Document
import FleetTelemetry.Toml.Scalar
import FleetTelemetry.Toml.Value
import FleetTelemetry.Vendor.Client
import FleetTelemetry.Vendor.Envelope
import FleetTelemetry.Word
import FleetTelemetry.Yaml.Event
import FleetTelemetry.Yaml.Lexer.Cursor
import FleetTelemetry.Yaml.Lexer.Property
import FleetTelemetry.Yaml.Lexer.Scalar
import FleetTelemetry.Yaml.Lexer.Stream
import FleetTelemetry.Yaml.Node
import FleetTelemetry.Yaml.Read
import FleetTelemetry.Yaml.Token
import FleetTelemetry.Proofs.Store.Recall
import FleetTelemetry.Proofs.Dedup.Sequential
import FleetTelemetry.Proofs.Dedup.Plan
import FleetTelemetry.Proofs.Dedup.Rule
import FleetTelemetry.Proofs.Poll.Frame
import FleetTelemetry.Proofs.Poll.Checkpoint
import FleetTelemetry.Proofs.Dedup.Replay
import FleetTelemetry.Proofs.Dedup.Bundles
import FleetTelemetry.Proofs.Dedup.Concurrent
import FleetTelemetry.Proofs.Poll.Redelivery
import FleetTelemetry.Proofs.Poll.Rejection
import FleetTelemetry.Proofs.Time.Calendar
import FleetTelemetry.Proofs.Time.Wire
import FleetTelemetry.Proofs.Time.Rfc3339
import FleetTelemetry.Proofs.Json.Reads
import FleetTelemetry.Proofs.Json.Layout
import FleetTelemetry.Proofs.Store.Snapshot
import FleetTelemetry.Proofs.Store.Reopen
import FleetTelemetry.Proofs.Poll.Window
import FleetTelemetry.Proofs.Poll.Batching
import FleetTelemetry.Proofs.Dedup.Footprint
import FleetTelemetry.Proofs.Record.Details
import FleetTelemetry.Proofs.Record.Conversion
import FleetTelemetry.Proofs.Vendor.Attempts
import FleetTelemetry.Proofs.Json.Records
import FleetTelemetry.Proofs.Vendor.Envelope
import FleetTelemetry.Proofs.Time.Localize
import FleetTelemetry.Proofs.Time.Iso
import FleetTelemetry.Proofs.Store.FailedWrite
import FleetTelemetry.Proofs.Http.Query
import FleetTelemetry.Proofs.Time.Layouts
import FleetTelemetry.Proofs.Record.Page
import FleetTelemetry.Proofs.Dedup.Decisions
import FleetTelemetry.Proofs.Store.Expiry
