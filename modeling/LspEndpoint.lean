import LspEndpoint.Backend.Basic
import LspEndpoint.Backend.Plain
import LspEndpoint.Command.Execute
import LspEndpoint.Command.Open
import LspEndpoint.CommandLine
import LspEndpoint.Config.Basic
import LspEndpoint.Config.Environment
import LspEndpoint.Config.Load
import LspEndpoint.Datum.Basic
import LspEndpoint.Datum.Display
import LspEndpoint.Datum.Graph
import LspEndpoint.Datum.Order
import LspEndpoint.Document.Edit
import LspEndpoint.Document.Offset
import LspEndpoint.Document.Store
import LspEndpoint.Fault
import LspEndpoint.File.Open
import LspEndpoint.File.Path
import LspEndpoint.File.Refusal
import LspEndpoint.File.Standard
import LspEndpoint.File.System
import LspEndpoint.Framing.Reader
import LspEndpoint.Framing.Writer
import LspEndpoint.Json.Printer
import LspEndpoint.Json.Reader
import LspEndpoint.Json.Value
import LspEndpoint.Lifecycle.Basic
import LspEndpoint.Lifecycle.Capabilities
import LspEndpoint.Main
import LspEndpoint.Method.Basic
import LspEndpoint.Method.Registry
import LspEndpoint.Number.Binary64
import LspEndpoint.Number.Decimal
import LspEndpoint.Number.Integer
import LspEndpoint.Number.Layout
import LspEndpoint.Number.Rounded
import LspEndpoint.Number.Shortest
import LspEndpoint.Params.Basic
import LspEndpoint.Params.Decode
import LspEndpoint.Params.Error
import LspEndpoint.Params.Record
import LspEndpoint.Program.Basic
import LspEndpoint.Program.Condition
import LspEndpoint.Program.Escape
import LspEndpoint.Program.Format
import LspEndpoint.Program.Launch
import LspEndpoint.Program.Option
import LspEndpoint.Program.Quoting
import LspEndpoint.Program.Scripted
import LspEndpoint.Program.Search
import LspEndpoint.Program.Shell.Allowance
import LspEndpoint.Program.Shell.Arithmetic
import LspEndpoint.Program.Shell.Builtin
import LspEndpoint.Program.Shell.Evaluation
import LspEndpoint.Program.Shell.Expansion
import LspEndpoint.Program.Shell.Grammar
import LspEndpoint.Program.Shell.Job
import LspEndpoint.Program.Shell.Machine
import LspEndpoint.Program.Shell.Pattern
import LspEndpoint.Program.Shell.Script
import LspEndpoint.Program.Shell.Source
import LspEndpoint.Program.Shell.Word
import LspEndpoint.Program.Standard
import LspEndpoint.Program.Utility.Amount
import LspEndpoint.Program.Utility.Characters
import LspEndpoint.Program.Utility.Concatenation
import LspEndpoint.Program.Utility.Decision
import LspEndpoint.Program.Utility.Lines
import LspEndpoint.Program.Utility.Paths
import LspEndpoint.Program.Utility.Printing
import LspEndpoint.Program.Utility.Reckoning
import LspEndpoint.Proofs.Config.Complaint
import LspEndpoint.Proofs.Config.Reading
import LspEndpoint.Proofs.Config.Reference
import LspEndpoint.Proofs.Config.Segment
import LspEndpoint.Proofs.Config.Shape
import LspEndpoint.Proofs.Config.Typing
import LspEndpoint.Proofs.Document.Address
import LspEndpoint.Proofs.Document.Atomicity
import LspEndpoint.Proofs.Document.ClientPosition
import LspEndpoint.Proofs.Document.Index
import LspEndpoint.Proofs.Document.Locality
import LspEndpoint.Proofs.Document.Notice
import LspEndpoint.Proofs.Framing.Block
import LspEndpoint.Proofs.Framing.Declared
import LspEndpoint.Proofs.Framing.Frame
import LspEndpoint.Proofs.Framing.Header
import LspEndpoint.Proofs.Framing.Progress
import LspEndpoint.Proofs.Framing.Response
import LspEndpoint.Proofs.Framing.RoundTrip
import LspEndpoint.Proofs.Framing.Stream
import LspEndpoint.Proofs.Json.Acceptance
import LspEndpoint.Proofs.Json.Ascii
import LspEndpoint.Proofs.Json.Decoded
import LspEndpoint.Proofs.Json.Double
import LspEndpoint.Proofs.Json.Encoding
import LspEndpoint.Proofs.Json.Grammar
import LspEndpoint.Proofs.Json.Reading
import LspEndpoint.Proofs.Json.RoundTrip
import LspEndpoint.Proofs.Json.Shown
import LspEndpoint.Proofs.Json.Standard
import LspEndpoint.Proofs.Json.Stuck
import LspEndpoint.Proofs.Json.Survival
import LspEndpoint.Proofs.Json.Token
import LspEndpoint.Proofs.Number.Integer
import LspEndpoint.Proofs.Params.Schema
import LspEndpoint.Proofs.Params.Wording
import LspEndpoint.Proofs.Program.Output
import LspEndpoint.Proofs.Result
import LspEndpoint.Proofs.Server.Accounting
import LspEndpoint.Proofs.Server.Batch
import LspEndpoint.Proofs.Server.Chronicle
import LspEndpoint.Proofs.Server.Command
import LspEndpoint.Proofs.Server.Concealment
import LspEndpoint.Proofs.Server.Delivery
import LspEndpoint.Proofs.Server.Diary
import LspEndpoint.Proofs.Server.Frame
import LspEndpoint.Proofs.Server.Isolation
import LspEndpoint.Proofs.Server.Lifecycle
import LspEndpoint.Proofs.Server.Message
import LspEndpoint.Proofs.Server.Noninterference
import LspEndpoint.Proofs.Server.Reply
import LspEndpoint.Proofs.Server.Step
import LspEndpoint.Proofs.Server.Verdict
import LspEndpoint.Proofs.Session.Deliverable
import LspEndpoint.Proofs.Session.Refinement
import LspEndpoint.Proofs.Session.Refusal
import LspEndpoint.Proofs.Session.Standard
import LspEndpoint.Proofs.Text.Lines
import LspEndpoint.Proofs.Text.Pieces
import LspEndpoint.Proofs.Text.Quoted
import LspEndpoint.Proofs.Text.Ruling
import LspEndpoint.Proofs.Text.Utf8
import LspEndpoint.Proofs.Trace.Elision
import LspEndpoint.Proofs.Trace.Line
import LspEndpoint.Proofs.Uri.FilePath
import LspEndpoint.Rpc.Message
import LspEndpoint.Rpc.Payload
import LspEndpoint.Rpc.Response
import LspEndpoint.Server.Basic
import LspEndpoint.Server.Route
import LspEndpoint.Server.Start
import LspEndpoint.Session
import LspEndpoint.Text.Base64
import LspEndpoint.Text.Blank
import LspEndpoint.Text.CodePoint
import LspEndpoint.Text.Digit
import LspEndpoint.Text.Entries
import LspEndpoint.Text.Lines
import LspEndpoint.Text.Lower
import LspEndpoint.Text.Native
import LspEndpoint.Text.Pieces
import LspEndpoint.Text.Printable
import LspEndpoint.Text.Quoted
import LspEndpoint.Text.Units
import LspEndpoint.Text.Utf8
import LspEndpoint.Time
import LspEndpoint.Trace.Elision
import LspEndpoint.Trace.Event
import LspEndpoint.Uri.Address
import LspEndpoint.Uri.Path
import LspEndpoint.Uri.Split
import LspEndpoint.Yaml.Block
import LspEndpoint.Yaml.Cursor
import LspEndpoint.Yaml.Failure
import LspEndpoint.Yaml.Layout
import LspEndpoint.Yaml.Merge
import LspEndpoint.Yaml.Node
import LspEndpoint.Yaml.Plain
import LspEndpoint.Yaml.Property
import LspEndpoint.Yaml.Quoted
import LspEndpoint.Yaml.Scalar
import LspEndpoint.Yaml.Tag
import LspEndpoint.Yaml.Timestamp
import LspEndpoint.Yaml.Token
import LspEndpoint.Yaml.Value
