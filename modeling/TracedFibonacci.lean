import TracedFibonacci.Config.Environment
import TracedFibonacci.Config.Error
import TracedFibonacci.Config.File
import TracedFibonacci.Config.Profile
import TracedFibonacci.Config.Settings
import TracedFibonacci.Config.Shape
import TracedFibonacci.Context
import TracedFibonacci.Decimal.Double
import TracedFibonacci.Fibonacci
import TracedFibonacci.Idna.Composition
import TracedFibonacci.Idna.Direction
import TracedFibonacci.Idna.Domain
import TracedFibonacci.Idna.Joining
import TracedFibonacci.Idna.Label
import TracedFibonacci.Idna.Mapping
import TracedFibonacci.Idna.Punycode
import TracedFibonacci.Log.Console
import TracedFibonacci.Log.Directive
import TracedFibonacci.Log.Event
import TracedFibonacci.Log.Filter
import TracedFibonacci.Log.Level
import TracedFibonacci.Log.Line
import TracedFibonacci.Main
import TracedFibonacci.Metrics
import TracedFibonacci.Net.Ipv4
import TracedFibonacci.Net.Ipv6
import TracedFibonacci.Net.SocketAddress
import TracedFibonacci.Options.CommandLine
import TracedFibonacci.Options.Flag
import TracedFibonacci.Options.Help
import TracedFibonacci.Options.Options
import TracedFibonacci.Program
import TracedFibonacci.Proofs.Config.Loading
import TracedFibonacci.Proofs.Config.Precedence
import TracedFibonacci.Proofs.Config.Reading
import TracedFibonacci.Proofs.Config.Validation
import TracedFibonacci.Proofs.Config.Writing
import TracedFibonacci.Proofs.Context
import TracedFibonacci.Proofs.Log.Console
import TracedFibonacci.Proofs.Log.Filter
import TracedFibonacci.Proofs.Log.Line
import TracedFibonacci.Proofs.Program.Dump
import TracedFibonacci.Proofs.Program.Exit
import TracedFibonacci.Proofs.Request.Delivery
import TracedFibonacci.Proofs.Request.Events
import TracedFibonacci.Proofs.Request.Loss
import TracedFibonacci.Proofs.Request.Pieces
import TracedFibonacci.Proofs.Request.Splitting
import TracedFibonacci.Proofs.Request.Value
import TracedFibonacci.Proofs.Run.Accounting
import TracedFibonacci.Proofs.Run.Cancellation
import TracedFibonacci.Proofs.Run.Course
import TracedFibonacci.Proofs.Run.Failure
import TracedFibonacci.Proofs.Run.Grace
import TracedFibonacci.Proofs.Run.Intake
import TracedFibonacci.Proofs.Run.Interruption
import TracedFibonacci.Proofs.Run.Moments
import TracedFibonacci.Proofs.Run.Nesting
import TracedFibonacci.Proofs.Run.Postponement
import TracedFibonacci.Proofs.Run.Race
import TracedFibonacci.Proofs.Run.Resumption
import TracedFibonacci.Proofs.Run.Settlement
import TracedFibonacci.Proofs.Run.Task
import TracedFibonacci.Proofs.Run.Telling
import TracedFibonacci.Proofs.Run.Undisturbed
import TracedFibonacci.Proofs.Telemetry.Samples
import TracedFibonacci.Proofs.Text.Utf8
import TracedFibonacci.Proofs.Toml.Document
import TracedFibonacci.Proofs.Toml.Scalar
import TracedFibonacci.Proofs.Toml.Table
import TracedFibonacci.Proofs.Toml.Value
import TracedFibonacci.Request.Error
import TracedFibonacci.Request.Fault
import TracedFibonacci.Request.Line
import TracedFibonacci.Request.Reader
import TracedFibonacci.Request.Stream
import TracedFibonacci.Run.Clock
import TracedFibonacci.Run.Iteration
import TracedFibonacci.Run.Loop
import TracedFibonacci.Run.Report
import TracedFibonacci.Run.Session
import TracedFibonacci.Run.Supervision
import TracedFibonacci.Startup.Error
import TracedFibonacci.Startup.Resolve
import TracedFibonacci.Telemetry.Exporter
import TracedFibonacci.Telemetry.Exposition
import TracedFibonacci.Telemetry.Teardown
import TracedFibonacci.Text.Blank
import TracedFibonacci.Text.CodePoints
import TracedFibonacci.Text.Hidden
import TracedFibonacci.Text.Json
import TracedFibonacci.Text.Letters
import TracedFibonacci.Text.Numeral
import TracedFibonacci.Text.Percent
import TracedFibonacci.Text.Quoted
import TracedFibonacci.Text.Terminal
import TracedFibonacci.Text.Utf8
import TracedFibonacci.Text.Uuid
import TracedFibonacci.Toml.Document
import TracedFibonacci.Toml.Excerpt
import TracedFibonacci.Toml.Item
import TracedFibonacci.Toml.Number
import TracedFibonacci.Toml.Quotation
import TracedFibonacci.Toml.Table
import TracedFibonacci.Toml.Value
import TracedFibonacci.Trace
import TracedFibonacci.Url.Host
import TracedFibonacci.Url.Path
import TracedFibonacci.Url.WebUrl
import TracedFibonacci.Proofs.Fibonacci
import TracedFibonacci.Proofs.Request.Grammar
import TracedFibonacci.Proofs.Net.Address
import TracedFibonacci.Proofs.Idna.Ascii
import TracedFibonacci.Proofs.Url.Host
import TracedFibonacci.Proofs.Text.Percent
import TracedFibonacci.Proofs.Url.Path
import TracedFibonacci.Proofs.Url.WebUrl
import TracedFibonacci.Proofs.Config.Endpoint
import TracedFibonacci.Proofs.Text.Quoted
import TracedFibonacci.Proofs.Request.Message
import TracedFibonacci.Proofs.Run.Wording
import TracedFibonacci.Proofs.Log.Failure
import TracedFibonacci.Proofs.Telemetry.Flushing
import TracedFibonacci.Proofs.Config.LogLevel
import TracedFibonacci.Proofs.Options.Place
import TracedFibonacci.Proofs.Options.Order
