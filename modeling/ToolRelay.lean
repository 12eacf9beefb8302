import ToolRelay.Cli.Arguments
import ToolRelay.Cli.Ending
import ToolRelay.Cli.Program
import ToolRelay.Decimal.Binary64
import ToolRelay.Decimal.Shortest
import ToolRelay.Dispatch.Dispatcher
import ToolRelay.Dispatch.Prepare
import ToolRelay.Dispatch.Strategy
import ToolRelay.Document.Basic
import ToolRelay.Document.Delimiters
import ToolRelay.Document.Exclude
import ToolRelay.Domain.Bootstring
import ToolRelay.Domain.Label
import ToolRelay.Domain.Mapping
import ToolRelay.Domain.Name
import ToolRelay.Glob.Expression
import ToolRelay.Glob.Match
import ToolRelay.Glob.Parse
import ToolRelay.Host.Basic
import ToolRelay.Host.Behaviour
import ToolRelay.Host.Tree
import ToolRelay.Invocation.Basic
import ToolRelay.Invocation.Direct
import ToolRelay.Invocation.InProcess
import ToolRelay.Json.Basic
import ToolRelay.Json.Complaint
import ToolRelay.Json.Printer
import ToolRelay.Json.Reader
import ToolRelay.Json.Value
import ToolRelay.Main
import ToolRelay.Module.Basic
import ToolRelay.Module.Echo
import ToolRelay.Module.Script
import ToolRelay.Module.SearchPath
import ToolRelay.Output.Channel
import ToolRelay.Path.Basic
import ToolRelay.Path.Normal
import ToolRelay.Proofs.Invocation.Direct
import ToolRelay.Proofs.Json.Gives
import ToolRelay.Proofs.Json.Grammar
import ToolRelay.Proofs.Json.Reading
import ToolRelay.Proofs.Json.RoundTrip
import ToolRelay.Proofs.Json.Skip
import ToolRelay.Proofs.Path.Components
import ToolRelay.Proofs.Path.Normal
import ToolRelay.Proofs.Remote.Conversation
import ToolRelay.Proofs.Remote.Refinement
import ToolRelay.Proofs.Runner.Lines
import ToolRelay.Proofs.Runner.Serve
import ToolRelay.Proofs.Schema.Decode
import ToolRelay.Proofs.Schema.Lossless
import ToolRelay.Proofs.Schema.Text
import ToolRelay.Proofs.Session.Configuration
import ToolRelay.Proofs.Session.Texts
import ToolRelay.Proofs.Settings.Build
import ToolRelay.Proofs.Settings.History
import ToolRelay.Proofs.Settings.Store
import ToolRelay.Proofs.Text.LineBreak
import ToolRelay.Proofs.Text.Split
import ToolRelay.Proofs.Text.Utf8
import ToolRelay.Proofs.Wire.Message
import ToolRelay.Remote.Conversation
import ToolRelay.Remote.Pool
import ToolRelay.Runner.Serve
import ToolRelay.Schema.Basic
import ToolRelay.Schema.Encode
import ToolRelay.Schema.OfJson
import ToolRelay.Schema.OfText
import ToolRelay.Schema.OfToml
import ToolRelay.Session.Basic
import ToolRelay.Session.Frame
import ToolRelay.Session.Parameters
import ToolRelay.Session.Server
import ToolRelay.Session.Shape
import ToolRelay.Session.Texts
import ToolRelay.Settings.Choices
import ToolRelay.Settings.ConfigError
import ToolRelay.Settings.Entry
import ToolRelay.Settings.Environment
import ToolRelay.Settings.File
import ToolRelay.Settings.Global
import ToolRelay.Settings.Record
import ToolRelay.Settings.Store
import ToolRelay.Settings.Tool
import ToolRelay.Shell.Arithmetic
import ToolRelay.Shell.Builtin
import ToolRelay.Shell.Condition
import ToolRelay.Shell.Editor
import ToolRelay.Shell.Evaluate
import ToolRelay.Shell.Fields
import ToolRelay.Shell.Format
import ToolRelay.Shell.Host
import ToolRelay.Shell.Machine
import ToolRelay.Shell.Pattern
import ToolRelay.Shell.Plan
import ToolRelay.Shell.Program
import ToolRelay.Shell.Reader
import ToolRelay.Shell.Wildcard
import ToolRelay.Text.Blank
import ToolRelay.Text.Cursor
import ToolRelay.Text.LineBreak
import ToolRelay.Text.Pieces
import ToolRelay.Text.Printable
import ToolRelay.Text.Quoted
import ToolRelay.Text.Replace
import ToolRelay.Text.Utf8
import ToolRelay.Toml.Basic
import ToolRelay.Toml.Document
import ToolRelay.Toml.Fault
import ToolRelay.Toml.Moment
import ToolRelay.Toml.Number
import ToolRelay.Toml.Reader
import ToolRelay.Trace
import ToolRelay.Unicode.Decomposition
import ToolRelay.Unicode.Direction
import ToolRelay.Unicode.Joining
import ToolRelay.Unicode.Normal
import ToolRelay.Unicode.Table
import ToolRelay.Uri.Basic
import ToolRelay.Uri.File
import ToolRelay.Uri.Host
import ToolRelay.Uri.Parse
import ToolRelay.Uri.Percent
import ToolRelay.Wire.Message
import ToolRelay.Proofs.Remote.Attribution
import ToolRelay.Proofs.Remote.Fleet
import ToolRelay.Proofs.Dispatch.Execute
import ToolRelay.Proofs.Dispatch.Lookalikes
import ToolRelay.Proofs.Dispatch.Notices
import ToolRelay.Proofs.Dispatch.Respelling
import ToolRelay.Proofs.Document.Delimiters
import ToolRelay.Proofs.Document.Problems
import ToolRelay.Proofs.Path.Canonical
import ToolRelay.Proofs.Settings.Skipped
import ToolRelay.Proofs.Dispatch.Library
import ToolRelay.Proofs.Cli.ExitStatus
import ToolRelay.Proofs.Wire.Lossless
import ToolRelay.Proofs.Dispatch.Unnamed
import ToolRelay.Proofs.Dispatch.Named
import ToolRelay.Proofs.Uri.File
import ToolRelay.Proofs.Runner.Classification
import ToolRelay.Proofs.Schema.Members
import ToolRelay.Proofs.Schema.Overlay
import ToolRelay.Proofs.Settings.Overlay
import ToolRelay.Proofs.Invocation.Conversion
import ToolRelay.Proofs.Path.Below
import ToolRelay.Proofs.Module.Echo
import ToolRelay.Proofs.Module.SearchPath
import ToolRelay.Proofs.Glob.Language
import ToolRelay.Proofs.Document.Exclude
