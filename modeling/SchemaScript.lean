import SchemaScript.Action
import SchemaScript.Apply.Executor
import SchemaScript.Apply.Rehearsal
import SchemaScript.Apply.Run
import SchemaScript.Catalog.Field
import SchemaScript.Catalog.Query
import SchemaScript.Catalog.Record
import SchemaScript.Catalog.Row
import SchemaScript.Catalog.Source
import SchemaScript.CommandLine.Help
import SchemaScript.CommandLine.Interface
import SchemaScript.CommandLine.Logging
import SchemaScript.CommandLine.Reading
import SchemaScript.CommandLine.Refusal
import SchemaScript.CommandLine.Request
import SchemaScript.CommandLine.Run
import SchemaScript.Config.Basic
import SchemaScript.Config.Charset
import SchemaScript.Config.ConnectionString
import SchemaScript.Config.Validate
import SchemaScript.Config.Yaml
import SchemaScript.Database.Client
import SchemaScript.Database.Create
import SchemaScript.Database.Reader
import SchemaScript.Database.Scripted
import SchemaScript.Database.Writer
import SchemaScript.Ddl.Clause
import SchemaScript.Ddl.Render
import SchemaScript.Decimal.Fixed
import SchemaScript.Decimal.Shortest
import SchemaScript.Failure
import SchemaScript.FileTree.Basic
import SchemaScript.FileTree.Fault
import SchemaScript.FileTree.Listing
import SchemaScript.FileTree.Path
import SchemaScript.FileTree.SystemError
import SchemaScript.Json.Any
import SchemaScript.Json.Cursor
import SchemaScript.Json.Fault
import SchemaScript.Json.Number
import SchemaScript.Json.Reader
import SchemaScript.Json.Text
import SchemaScript.Json.Value
import SchemaScript.Log
import SchemaScript.Main
import SchemaScript.Mismatch
import SchemaScript.Pipeline.Build
import SchemaScript.Pipeline.Export
import SchemaScript.Pipeline.Report
import SchemaScript.Pipeline.Update
import SchemaScript.Schema.Basic
import SchemaScript.Schema.Json
import SchemaScript.Schema.Validate
import SchemaScript.Script.Line
import SchemaScript.Script.Select
import SchemaScript.Script.Split
import SchemaScript.Script.Statement
import SchemaScript.Text.Blank
import SchemaScript.Text.CaseMap
import SchemaScript.Text.CaseTable
import SchemaScript.Text.Digits
import SchemaScript.Text.Hidden
import SchemaScript.Text.Letters
import SchemaScript.Text.Lines
import SchemaScript.Text.Quoted
import SchemaScript.Text.Search
import SchemaScript.Text.Similar
import SchemaScript.World
import SchemaScript.Yaml.BlockScalar
import SchemaScript.Yaml.Decode
import SchemaScript.Yaml.Document
import SchemaScript.Yaml.Fault
import SchemaScript.Yaml.Folding
import SchemaScript.Yaml.Node
import SchemaScript.Yaml.PlainScalar
import SchemaScript.Yaml.QuotedScalar
import SchemaScript.Yaml.ScalarValue
import SchemaScript.Yaml.Spot
import SchemaScript.Yaml.Tag
import SchemaScript.Yaml.Token
import SchemaScript.Yaml.TokenStream
import SchemaScript.Proofs.Action
import SchemaScript.Proofs.Apply.Account
import SchemaScript.Proofs.Apply.AllOrNothing
import SchemaScript.Proofs.Apply.Control
import SchemaScript.Proofs.Apply.Course
import SchemaScript.Proofs.Apply.Protocol
import SchemaScript.Proofs.Apply.Watch
import SchemaScript.Proofs.Catalog.Direction
import SchemaScript.Proofs.Catalog.Field
import SchemaScript.Proofs.Catalog.Padding
import SchemaScript.Proofs.Catalog.Row
import SchemaScript.Proofs.CommandLine.Reading
import SchemaScript.Proofs.CommandLine.Split
import SchemaScript.Proofs.CommandLine.Support
import SchemaScript.Proofs.Config.Charset
import SchemaScript.Proofs.Config.ConnectionString
import SchemaScript.Proofs.Config.Secrecy
import SchemaScript.Proofs.Config.Sections
import SchemaScript.Proofs.Config.Setting
import SchemaScript.Proofs.Config.Validate
import SchemaScript.Proofs.Database.Closing
import SchemaScript.Proofs.Database.Reading
import SchemaScript.Proofs.Database.Watch
import SchemaScript.Proofs.Ddl.Directive
import SchemaScript.Proofs.Ddl.Keyword
import SchemaScript.Proofs.Ddl.Replay
import SchemaScript.Proofs.Ddl.Shape
import SchemaScript.Proofs.Failure
import SchemaScript.Proofs.FileTree.Grow
import SchemaScript.Proofs.FileTree.Place
import SchemaScript.Proofs.FileTree.Remove
import SchemaScript.Proofs.FileTree.Write
import SchemaScript.Proofs.FirstUnmet
import SchemaScript.Proofs.Json.Reads
import SchemaScript.Proofs.Json.Record
import SchemaScript.Proofs.Json.Text
import SchemaScript.Proofs.Pipeline.Build
import SchemaScript.Proofs.Pipeline.Confined
import SchemaScript.Proofs.Pipeline.Export
import SchemaScript.Proofs.Pipeline.Footprint
import SchemaScript.Proofs.Pipeline.Refusal
import SchemaScript.Proofs.Pipeline.Reload
import SchemaScript.Proofs.Pipeline.Update
import SchemaScript.Proofs.Schema.Snapshot
import SchemaScript.Proofs.Schema.Validate
import SchemaScript.Proofs.Script.Breaks
import SchemaScript.Proofs.Script.Conservation
import SchemaScript.Proofs.Script.Invariant
import SchemaScript.Proofs.Script.Joining
import SchemaScript.Proofs.Script.Lines
import SchemaScript.Proofs.Script.Remainder
import SchemaScript.Proofs.Script.Run
import SchemaScript.Proofs.Script.Select
import SchemaScript.Proofs.Text.Bytes
import SchemaScript.Proofs.Text.CaseMap
import SchemaScript.Proofs.Text.Digits
import SchemaScript.Proofs.Text.Keyword
import SchemaScript.Proofs.Text.Letters
import SchemaScript.Proofs.Text.Trim
import SchemaScript.Proofs.World
import SchemaScript.Proofs.Yaml.Decode
