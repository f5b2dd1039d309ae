import WideColumn.Catalog.Fixture
import WideColumn.Catalog.RowDocument
import WideColumn.Catalog.Source
import WideColumn.ColumnType.Basic
import WideColumn.ColumnType.Native
import WideColumn.ColumnType.Spelling
import WideColumn.Command.Error
import WideColumn.Command.Finish
import WideColumn.Command.Generate
import WideColumn.Command.Init
import WideColumn.Command.Inspect
import WideColumn.Command.Load
import WideColumn.Command.Source
import WideColumn.CommandLine.Invocation
import WideColumn.CommandLine.Run
import WideColumn.CommandLine.Switch
import WideColumn.ContactPoint.Address
import WideColumn.ContactPoint.Basic
import WideColumn.Conversion
import WideColumn.Cql.CreateTable
import WideColumn.Cql.Identifier
import WideColumn.Disk.FileTree
import WideColumn.Disk.Path
import WideColumn.Disk.SystemError
import WideColumn.Event
import WideColumn.Formatter.Basic
import WideColumn.Formatter.Choice
import WideColumn.Formatter.Complaint
import WideColumn.Formatter.Condition
import WideColumn.Formatter.Edit
import WideColumn.Formatter.Edit.Basic
import WideColumn.Formatter.Edit.Escape
import WideColumn.Formatter.Edit.Fault
import WideColumn.Formatter.Edit.Machine
import WideColumn.Formatter.Edit.Reader
import WideColumn.Formatter.Flag
import WideColumn.Formatter.Mode
import WideColumn.Formatter.Program
import WideColumn.Formatter.Remove
import WideColumn.Formatter.Search
import WideColumn.GeneratedFile
import WideColumn.Highlight.Basic
import WideColumn.Highlight.Style
import WideColumn.Highlight.Token
import WideColumn.Host
import WideColumn.Json.Numeral
import WideColumn.Json.Token
import WideColumn.Json.Value
import WideColumn.KeyModel
import WideColumn.Log.Filter
import WideColumn.Log.Record
import WideColumn.Log.ValuePattern
import WideColumn.Main
import WideColumn.Model.Basic
import WideColumn.Model.Declaration
import WideColumn.Name.Case
import WideColumn.Name.Model
import WideColumn.Name.Singular
import WideColumn.Pattern.Basic
import WideColumn.Pattern.Bracket
import WideColumn.Pattern.Error
import WideColumn.Pattern.Reader
import WideColumn.Pattern.Search
import WideColumn.Proofs.Catalog.Dump
import WideColumn.Proofs.Catalog.Entry
import WideColumn.Proofs.ColumnType.Argument
import WideColumn.Proofs.ColumnType.Bracket
import WideColumn.Proofs.ColumnType.Frozen
import WideColumn.Proofs.ColumnType.Grammar
import WideColumn.Proofs.ColumnType.Meaning
import WideColumn.Proofs.ColumnType.RoundTrip
import WideColumn.Proofs.ColumnType.Shape
import WideColumn.Proofs.ColumnType.Soundness
import WideColumn.Proofs.ColumnType.Unknown
import WideColumn.Proofs.Command.Accounting
import WideColumn.Proofs.Command.Consent
import WideColumn.Proofs.Command.Frame
import WideColumn.Proofs.Command.Load
import WideColumn.Proofs.Command.Questions
import WideColumn.Proofs.Command.Recording
import WideColumn.Proofs.Command.Repetition
import WideColumn.Proofs.Command.Run
import WideColumn.Proofs.Command.Support
import WideColumn.Proofs.Command.Written
import WideColumn.Proofs.Conversion.Intent
import WideColumn.Proofs.Conversion.Meaning
import WideColumn.Proofs.Conversion.Nulls
import WideColumn.Proofs.Conversion.Structure
import WideColumn.Proofs.Conversion.Typing
import WideColumn.Proofs.Cql.CreateTable
import WideColumn.Proofs.Cql.Identifier
import WideColumn.Proofs.Disk.Directories
import WideColumn.Proofs.Disk.Entry
import WideColumn.Proofs.Disk.Growth
import WideColumn.Proofs.Disk.Path
import WideColumn.Proofs.Disk.Writing
import WideColumn.Proofs.Highlight.Colors
import WideColumn.Proofs.Highlight.Terminal
import WideColumn.Proofs.Json.Content
import WideColumn.Proofs.Json.Grammar
import WideColumn.Proofs.Json.Numeral
import WideColumn.Proofs.Json.Range
import WideColumn.Proofs.Json.Reader
import WideColumn.Proofs.Json.Token
import WideColumn.Proofs.Model.Content
import WideColumn.Proofs.Model.Fields
import WideColumn.Proofs.Model.Hygiene
import WideColumn.Proofs.Model.Keys
import WideColumn.Proofs.Name.Alphabet
import WideColumn.Proofs.Name.Camel
import WideColumn.Proofs.Name.Capitals
import WideColumn.Proofs.Name.Inflection
import WideColumn.Proofs.Name.LastWord
import WideColumn.Proofs.Name.ModelFile
import WideColumn.Proofs.Name.Namesake
import WideColumn.Proofs.Name.Plain
import WideColumn.Proofs.Name.Plural
import WideColumn.Proofs.Schema.FirstSeen
import WideColumn.Proofs.Schema.Grouping
import WideColumn.Proofs.Schema.KeyModel
import WideColumn.Proofs.Schema.KeyOrder
import WideColumn.Proofs.Schema.Positions
import WideColumn.Proofs.Schema.Reordering
import WideColumn.Proofs.Schema.Unknown
import WideColumn.Proofs.Script.Cut
import WideColumn.Proofs.Script.Evaluation
import WideColumn.Proofs.Script.Faults
import WideColumn.Proofs.Script.PropertyName
import WideColumn.Proofs.Script.Reader
import WideColumn.Proofs.Script.Steps
import WideColumn.Proofs.Script.StringLiteral
import WideColumn.Proofs.Script.Token
import WideColumn.Proofs.Script.Value
import WideColumn.Proofs.Settings.Layers
import WideColumn.Proofs.Sink.Emission
import WideColumn.Proofs.Sink.Files
import WideColumn.Proofs.TargetType.Text
import WideColumn.Proofs.Text.Apart
import WideColumn.Proofs.Text.AsciiCase
import WideColumn.Proofs.Text.Run
import WideColumn.Proofs.Text.Split
import WideColumn.Proofs.Text.Trim
import WideColumn.Schema.Column
import WideColumn.Schema.Diagnostic
import WideColumn.Schema.Row
import WideColumn.Schema.Table
import WideColumn.Script.Expr
import WideColumn.Settings.Basic
import WideColumn.Settings.ConfigFile
import WideColumn.Sink
import WideColumn.SupportFile
import WideColumn.TargetType
import WideColumn.Text.Alphanumeric
import WideColumn.Text.Ascii
import WideColumn.Text.Blank
import WideColumn.Text.Casing
import WideColumn.Text.Casing.Table
import WideColumn.Text.CodePoints
import WideColumn.Text.Digits
import WideColumn.Text.Printable
import WideColumn.Text.Quoted
import WideColumn.Text.Split
import WideColumn.Text.Utf8
import WideColumn.Toml.Document
import WideColumn.Toml.Number
import WideColumn.Toml.Reader
import WideColumn.Toml.Table
import WideColumn.Toml.Text
import WideColumn.Workspace
import WideColumn.Proofs.Name.Identifier
import WideColumn.Proofs.Name.Kebab
import WideColumn.Proofs.ContactPoint.Address
import WideColumn.Proofs.ContactPoint.Node
import WideColumn.Proofs.Command.Printing
