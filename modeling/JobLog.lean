import JobLog.Broadcast.Memory
import JobLog.Broadcast.Pusher
import JobLog.Broker.Address
import JobLog.Broker.Consumption
import JobLog.Broker.Delivery
import JobLog.Broker.Lifecycle
import JobLog.Broker.Method
import JobLog.Broker.Pool
import JobLog.Broker.Prefetch
import JobLog.Broker.Queue
import JobLog.Broker.Session
import JobLog.Broker.Simulation
import JobLog.CommandLine.Arguments
import JobLog.CommandLine.Messages
import JobLog.CommandLine.Run
import JobLog.CommandLine.Similarity
import JobLog.Config.Basic
import JobLog.Config.Dotenv
import JobLog.Config.Json
import JobLog.Config.Load
import JobLog.Config.Whole
import JobLog.Decimal.Shortest
import JobLog.Decimal.Significant
import JobLog.Digest.Block
import JobLog.Digest.Md5
import JobLog.Digest.Sha256
import JobLog.Error
import JobLog.Event
import JobLog.Json.Failure
import JobLog.Json.Number
import JobLog.Json.Reader
import JobLog.Json.Record
import JobLog.Json.Scan
import JobLog.Json.Skip
import JobLog.Json.Value
import JobLog.Logging.Directive
import JobLog.Logging.Filter
import JobLog.Logging.Folder
import JobLog.Logging.Line
import JobLog.Logging.Settings
import JobLog.Logging.Setup
import JobLog.Main
import JobLog.Metrics.FlushLoop
import JobLog.Metrics.Histogram
import JobLog.Metrics.Sketch
import JobLog.Metrics.Snapshot
import JobLog.Mode
import JobLog.Part
import JobLog.Pattern.Bracketed
import JobLog.Pattern.Cursor
import JobLog.Pattern.Escape
import JobLog.Pattern.Fault
import JobLog.Pattern.Group
import JobLog.Pattern.Support
import JobLog.Pattern.Syntax
import JobLog.Pipeline.Memory
import JobLog.Pipeline.Processor
import JobLog.Pipeline.Task
import JobLog.Proofs.Json.Grammar
import JobLog.Proofs.Json.Numerals
import JobLog.Proofs.Json.Punctuation
import JobLog.Proofs.Json.Readers
import JobLog.Proofs.Json.Records
import JobLog.Proofs.Json.Rendering
import JobLog.Proofs.Json.Skipping
import JobLog.Proofs.Json.Strings
import JobLog.Proofs.Json.Values
import JobLog.Proofs.Metrics.Counts
import JobLog.Proofs.Part.Format
import JobLog.Proofs.Pipeline.Account
import JobLog.Proofs.Pipeline.Balance
import JobLog.Proofs.Pipeline.Handling
import JobLog.Proofs.Pipeline.Refinement
import JobLog.Proofs.Pool.Conservation
import JobLog.Proofs.Pool.Crew
import JobLog.Proofs.Pool.History
import JobLog.Proofs.Pool.Ledger
import JobLog.Proofs.Pool.Measures
import JobLog.Proofs.Pool.Steps
import JobLog.Proofs.Queue.Counting
import JobLog.Proofs.Queue.ExactlyOnce
import JobLog.Proofs.Queue.Flow
import JobLog.Proofs.Queue.Losses
import JobLog.Proofs.Queue.Phases
import JobLog.Proofs.Queue.Progress
import JobLog.Proofs.Queue.Service
import JobLog.Proofs.Queue.Shutdown
import JobLog.Proofs.Queue.Slots
import JobLog.Proofs.Queue.Steps
import JobLog.Proofs.Queue.Termination
import JobLog.Proofs.Text.Utf8
import JobLog.Store.Address
import JobLog.Store.Database
import JobLog.Store.Memory
import JobLog.Supervisor.Live
import JobLog.Supervisor.Simulation
import JobLog.Supervisor.Startup
import JobLog.Text.Alphanumeric
import JobLog.Text.Blank
import JobLog.Text.Canonical
import JobLog.Text.Cased
import JobLog.Text.Charset
import JobLog.Text.Escaped
import JobLog.Text.Rows
import JobLog.Text.Letter
import JobLog.Text.Lowercase
import JobLog.Text.Mark
import JobLog.Text.Normal
import JobLog.Text.Quoted
import JobLog.Text.Utf8
import JobLog.Time
import JobLog.Web.Domain
import JobLog.Web.Domain.Direction
import JobLog.Web.Domain.Joining
import JobLog.Web.Domain.Mapping
import JobLog.Web.Host
import JobLog.Web.Percent
import JobLog.Web.Punycode
import JobLog.Web.Query
import JobLog.Web.Url
import JobLog.Proofs.Queue.Lifetime
import JobLog.Proofs.Session.Phases
import JobLog.Proofs.Session.Transcript
import JobLog.Proofs.Session.Protocol
import JobLog.Proofs.Session.Drain
import JobLog.Proofs.Consumption.Hosting
import JobLog.Proofs.Consumption.Outcome
import JobLog.Proofs.Consumption.Steps
import JobLog.Proofs.Supervisor.Steps
import JobLog.Proofs.Pipeline.Recording
import JobLog.Proofs.Supervisor.Stages
import JobLog.Proofs.Supervisor.Cleanup
import JobLog.Proofs.Pipeline.Isolation
import JobLog.Proofs.Pipeline.Contract
import JobLog.Proofs.Config.Acceptance
import JobLog.Proofs.Supervisor.Readiness
import JobLog.Proofs.Web.Percent
import JobLog.Proofs.Web.Address
import JobLog.Proofs.Web.Path
import JobLog.Proofs.Web.Query
import JobLog.Proofs.Broadcast.Receipt
import JobLog.Proofs.Consumption.Race
import JobLog.Proofs.Queue.Building
import JobLog.Proofs.Session.Building
import JobLog.Proofs.Metrics.Sketches
import JobLog.Proofs.Metrics.Transparency
import JobLog.Proofs.Config.Variables
import JobLog.Proofs.Config.Export
import JobLog.Proofs.Config.Loading
import JobLog.Proofs.Config.Saturation
import JobLog.Proofs.Json.Choices
import JobLog.Proofs.Json.Spelling
import JobLog.Proofs.Config.Spelling
import JobLog.Proofs.Web.Ending
import JobLog.Proofs.Broadcast.Secrecy
import JobLog.Proofs.Pool.Lockstep
import JobLog.Proofs.Pipeline.Secrecy
import JobLog.Proofs.Config.Overriding
import JobLog.Proofs.Metrics.Flushing
import JobLog.Proofs.Pool.Images
import JobLog.Proofs.Pipeline.Spans
import JobLog.Proofs.Pipeline.Attribution
