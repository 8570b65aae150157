import CallSheet.Action.Basic
import CallSheet.Action.Custom
import CallSheet.Action.Kind
import CallSheet.Action.Request
import CallSheet.Cli.Arguments
import CallSheet.Cli.Program
import CallSheet.Command.Ending
import CallSheet.Command.Runner
import CallSheet.Context.Basic
import CallSheet.Context.Json
import CallSheet.Context.Template
import CallSheet.Context.Yaml
import CallSheet.Converter
import CallSheet.Document.Basic
import CallSheet.Document.FileList
import CallSheet.Document.Header
import CallSheet.Document.Load
import CallSheet.Document.Parse
import CallSheet.Fault
import CallSheet.Fault.Table
import CallSheet.Files.Basic
import CallSheet.Files.Changes
import CallSheet.Files.Operations
import CallSheet.Files.Path
import CallSheet.Http.Fields
import CallSheet.Http.Message
import CallSheet.Main
import CallSheet.Proofs.Document.Grammar
import CallSheet.Proofs.Document.Header
import CallSheet.Proofs.Document.Invariants
import CallSheet.Proofs.Document.Step
import CallSheet.Proofs.Text
import CallSheet.Resolve
import CallSheet.ResultDir
import CallSheet.Shell.Arithmetic
import CallSheet.Shell.Builtin
import CallSheet.Shell.Bytes
import CallSheet.Shell.Expansion
import CallSheet.Shell.Glob
import CallSheet.Shell.Machine
import CallSheet.Shell.Pattern
import CallSheet.Shell.Printf
import CallSheet.Shell.Redirection
import CallSheet.Shell.Run
import CallSheet.Shell.Runner
import CallSheet.Shell.Script
import CallSheet.Shell.Syntax
import CallSheet.Shell.Test
import CallSheet.Shell.Token
import CallSheet.Shell.Tools
import CallSheet.Text.Base64
import CallSheet.Text.Blank
import CallSheet.Text.Case
import CallSheet.Text.Case.Table
import CallSheet.Text.Digits
import CallSheet.Text.Lines
import CallSheet.Text.Percent
import CallSheet.Text.Quoted
import CallSheet.Text.Quoted.Table
import CallSheet.Text.Ranges
import CallSheet.Text.ShellQuote
import CallSheet.Text.Split
import CallSheet.Text.Utf8
import CallSheet.Url.Host
import CallSheet.Url.Parse
import CallSheet.Url.Punycode
import CallSheet.World
import CallSheet.Yaml.Plain
import CallSheet.Yaml.Scalar
import CallSheet.Proofs.Document.Writing
import CallSheet.Proofs.Document.Beside
import CallSheet.Proofs.Document.Composition
import CallSheet.Proofs.Resolve.Overrides
import CallSheet.Proofs.Resolve.Independence
import CallSheet.Proofs.Document.Trace
import CallSheet.Proofs.Document.Faults
import CallSheet.Proofs.Document.WellFormed
import CallSheet.Proofs.Resolve.Sequence
import CallSheet.Proofs.Resolve.Quoting
import CallSheet.Proofs.Resolve.Written
import CallSheet.Proofs.Files.Entries
import CallSheet.Proofs.Files.Walk
import CallSheet.Proofs.Files.Beneath
import CallSheet.Proofs.ResultDir.Results
import CallSheet.Proofs.ResultDir.Prepare
import CallSheet.Proofs.ResultDir.Write
import CallSheet.Proofs.ResultDir.Values
import CallSheet.Proofs.ResultDir.Interleaving
import CallSheet.Proofs.ResultDir.Kept
import CallSheet.Proofs.Action.Call
import CallSheet.Proofs.Document.Loaded
import CallSheet.Proofs.Cli.Course
import CallSheet.Proofs.Cli.Target
import CallSheet.Proofs.Cli.Recording
import CallSheet.Proofs.Cli.Agreement
import CallSheet.Proofs.Cli.Deeds
import CallSheet.Proofs.Cli.Failures
import CallSheet.Proofs.Template.Layout
import CallSheet.Proofs.Template.OpenNames
import CallSheet.Proofs.Document.Expansion
import CallSheet.Proofs.ResultDir.Backups
import CallSheet.Proofs.Document.Items
import CallSheet.Proofs.Text.Percent
import CallSheet.Proofs.Http.Fields
import CallSheet.Proofs.Http.Forms
import CallSheet.Proofs.Action.Requests
import CallSheet.Proofs.Action.Checks
import CallSheet.Proofs.Text.Base64
import CallSheet.Proofs.Text.Base64.Reading
import CallSheet.Proofs.Files.Order
import CallSheet.Proofs.Context.Json
import CallSheet.Proofs.Yaml.Grammar
import CallSheet.Proofs.Yaml.Styles
import CallSheet.Proofs.Context.Yaml
import CallSheet.Proofs.Cli.Json
import CallSheet.Proofs.Action.Discovery
