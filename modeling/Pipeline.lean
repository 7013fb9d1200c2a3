import Pipeline.Cli.Arguments
import Pipeline.Cli.Program
import Pipeline.Cli.Usage
import Pipeline.Config
import Pipeline.Config.Error
import Pipeline.Config.Location
import Pipeline.Config.OfJson
import Pipeline.Config.OfYaml
import Pipeline.Config.ToJson
import Pipeline.Console
import Pipeline.Console.Display
import Pipeline.Console.Reporter
import Pipeline.Files
import Pipeline.Graph
import Pipeline.Graph.ByName
import Pipeline.Graph.Compile
import Pipeline.Graph.Edge
import Pipeline.Graph.Visit
import Pipeline.Json.Error
import Pipeline.Json.NumberText
import Pipeline.Json.Printer
import Pipeline.Json.Reader
import Pipeline.Json.Value
import Pipeline.Log
import Pipeline.Main
import Pipeline.Manifest
import Pipeline.Mismatch
import Pipeline.Number.Binary64
import Pipeline.Number.Layout
import Pipeline.Number.Machine
import Pipeline.Number.Notation
import Pipeline.Number.Scan
import Pipeline.Number.Shortest
import Pipeline.Path
import Pipeline.Proofs.Fallible
import Pipeline.Proofs.Config.Accepted
import Pipeline.Proofs.Graph.Frames
import Pipeline.Proofs.Graph.Invariant
import Pipeline.Proofs.Graph.Potential
import Pipeline.Proofs.Graph.Resolve
import Pipeline.Proofs.Graph.Result
import Pipeline.Proofs.Graph.Rounds
import Pipeline.Proofs.Graph.Simulation
import Pipeline.Proofs.Graph.Station
import Pipeline.Proofs.Graph.Update
import Pipeline.Proofs.Graph.Walk
import Pipeline.Proofs.Step.Grounded
import Pipeline.Proofs.Step.Agreement
import Pipeline.Run.Collaborators
import Pipeline.Run.Command
import Pipeline.Run.Engine
import Pipeline.Run.Event
import Pipeline.Run.ExecutionId
import Pipeline.Run.Instant
import Pipeline.Run.Local
import Pipeline.Run.Outcome
import Pipeline.Run.Perform
import Pipeline.Shell.Arithmetic
import Pipeline.Shell.Builtin
import Pipeline.Shell.Builtin.Arguments
import Pipeline.Shell.Builtin.Directory
import Pipeline.Shell.Builtin.Input
import Pipeline.Shell.Builtin.Job
import Pipeline.Shell.Builtin.Output
import Pipeline.Shell.Builtin.Settings
import Pipeline.Shell.Builtin.Variables
import Pipeline.Shell.CharClass
import Pipeline.Shell.Escape
import Pipeline.Shell.Expansion
import Pipeline.Shell.Field
import Pipeline.Shell.Format
import Pipeline.Shell.Lookup
import Pipeline.Shell.Mode
import Pipeline.Shell.Option
import Pipeline.Shell.Pattern
import Pipeline.Shell.Process
import Pipeline.Shell.Redirection
import Pipeline.Shell.Regex
import Pipeline.Shell.Regex.OfText
import Pipeline.Shell.Run
import Pipeline.Shell.Script
import Pipeline.Shell.Signal
import Pipeline.Shell.Source
import Pipeline.Shell.State
import Pipeline.Shell.Syntax
import Pipeline.Shell.Test
import Pipeline.Shell.Token
import Pipeline.Shell.Utility
import Pipeline.Shell.Utility.Arguments
import Pipeline.Shell.Utility.Arrange
import Pipeline.Shell.Utility.Awk
import Pipeline.Shell.Utility.Awk.OfTokens
import Pipeline.Shell.Utility.Awk.Record
import Pipeline.Shell.Utility.Awk.Run
import Pipeline.Shell.Utility.Awk.Syntax
import Pipeline.Shell.Utility.Awk.Table
import Pipeline.Shell.Utility.Awk.Token
import Pipeline.Shell.Utility.Awk.Value
import Pipeline.Shell.Utility.Column
import Pipeline.Shell.Utility.Compare
import Pipeline.Shell.Utility.Content
import Pipeline.Shell.Utility.Copy
import Pipeline.Shell.Utility.Count
import Pipeline.Shell.Utility.Create
import Pipeline.Shell.Utility.Date
import Pipeline.Shell.Utility.Difference
import Pipeline.Shell.Utility.Digest
import Pipeline.Shell.Utility.Dump
import Pipeline.Shell.Utility.Edit
import Pipeline.Shell.Utility.Edit.OfText
import Pipeline.Shell.Utility.Edit.Script
import Pipeline.Shell.Utility.Encode
import Pipeline.Shell.Utility.Expression
import Pipeline.Shell.Utility.Find
import Pipeline.Shell.Utility.Find.Plan
import Pipeline.Shell.Utility.Find.Term
import Pipeline.Shell.Utility.Launcher
import Pipeline.Shell.Utility.Listing
import Pipeline.Shell.Utility.Order
import Pipeline.Shell.Utility.PathName
import Pipeline.Shell.Utility.Permission
import Pipeline.Shell.Utility.Portion
import Pipeline.Shell.Utility.Quoting
import Pipeline.Shell.Utility.Remove
import Pipeline.Shell.Utility.Search
import Pipeline.Shell.Utility.Sequence
import Pipeline.Shell.Utility.Size
import Pipeline.Shell.Utility.Sort
import Pipeline.Shell.Utility.Status
import Pipeline.Shell.Utility.Surroundings
import Pipeline.Shell.Utility.Transliterate
import Pipeline.Step
import Pipeline.Step.Reference
import Pipeline.Step.Registry
import Pipeline.Text.Blank
import Pipeline.Text.Digit
import Pipeline.Text.Escaped
import Pipeline.Text.Lines
import Pipeline.Text.Octets
import Pipeline.Text.Printable
import Pipeline.Text.Utf8
import Pipeline.Yaml.Cursor
import Pipeline.Yaml.Decode
import Pipeline.Yaml.Error
import Pipeline.Yaml.Node
import Pipeline.Yaml.Node.OfTokens
import Pipeline.Yaml.Scalar
import Pipeline.Yaml.Tag
import Pipeline.Yaml.Token
import Pipeline.Yaml.Token.Block
import Pipeline.Yaml.Token.Plain
import Pipeline.Yaml.Token.Quoted
import Pipeline.Yaml.Token.Stream
import Pipeline.Yaml.Token.Tag
import Pipeline.Proofs.Graph.Nodes
import Pipeline.Proofs.Run.Course
import Pipeline.Proofs.Run.Walk
import Pipeline.Proofs.Step.Entry
import Pipeline.Run.Handler
import Pipeline.Proofs.Run.Notices
import Pipeline.Proofs.Run.Events
import Pipeline.Proofs.Run.Calls
import Pipeline.Proofs.Graph.Agreement
import Pipeline.Proofs.Config.Authored
import Pipeline.Proofs.Graph.Masking
import Pipeline.Proofs.Run.Decision
import Pipeline.Proofs.Run.Verdict
import Pipeline.Proofs.Run.Route
import Pipeline.Proofs.Graph.Cycle
import Pipeline.Proofs.Run.Policy
import Pipeline.Proofs.Cli.Status
import Pipeline.Proofs.Yaml.Reread
import Pipeline.Proofs.Yaml.Quoted
import Pipeline.Proofs.Yaml.Plain
import Pipeline.Proofs.Yaml.Scanner
import Pipeline.Proofs.Yaml.JsonTokens
import Pipeline.Proofs.Yaml.JsonNode
import Pipeline.Proofs.Config.JsonText
import Pipeline.Proofs.Graph.Dangling
import Pipeline.Proofs.Graph.Likeness
import Pipeline.Proofs.Config.Rewording
import Pipeline.Proofs.Run.Obstacle
import Pipeline.Proofs.Run.Logs
import Pipeline.Proofs.Step.Index
import Pipeline.Proofs.Graph.Renaming
import Pipeline.Proofs.Config.Renaming
import Pipeline.Proofs.Console.Labels
import Pipeline.Proofs.Console.Transcript
import Pipeline.Proofs.Json.Reading
import Pipeline.Proofs.Json.Ignored
import Pipeline.Proofs.Manifest.Scripts
import Pipeline.Proofs.Run.Consult
import Pipeline.Proofs.Config.JsonValue
import Pipeline.Proofs.Console.Truncation
import Pipeline.Proofs.Config.JsonFields
import Pipeline.Proofs.Graph.Loop
import Pipeline.Proofs.Cli.Refusal
import Pipeline.Proofs.Graph.Duration
