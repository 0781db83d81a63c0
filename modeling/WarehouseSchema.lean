import WarehouseSchema.Calendar
import WarehouseSchema.Calendar.FreeForm
import WarehouseSchema.Calendar.Layout
import WarehouseSchema.Calendar.Pattern
import WarehouseSchema.Calendar.Words
import WarehouseSchema.Column.Basic
import WarehouseSchema.Column.Catalog
import WarehouseSchema.Command.Basic
import WarehouseSchema.Command.Options
import WarehouseSchema.Command.Report
import WarehouseSchema.Configuration
import WarehouseSchema.Connection
import WarehouseSchema.Csv.Kind
import WarehouseSchema.Csv.Record
import WarehouseSchema.Csv.Sample
import WarehouseSchema.Datatype.Basetype
import WarehouseSchema.Datatype.Catalogue
import WarehouseSchema.Datatype.Engine
import WarehouseSchema.Datatype.Fault
import WarehouseSchema.Datatype.Length
import WarehouseSchema.Definition
import WarehouseSchema.Environment.Basic
import WarehouseSchema.Environment.File
import WarehouseSchema.Fault
import WarehouseSchema.Grid
import WarehouseSchema.Inference
import WarehouseSchema.Json.Reader
import WarehouseSchema.Json.Writer
import WarehouseSchema.Logging.Record
import WarehouseSchema.Logging.Settings
import WarehouseSchema.Logging.Setup
import WarehouseSchema.Main
import WarehouseSchema.Number.Binary64
import WarehouseSchema.Number.Places
import WarehouseSchema.Number.Power
import WarehouseSchema.Number.Reading
import WarehouseSchema.Number.Shortest
import WarehouseSchema.Plain
import WarehouseSchema.Plan
import WarehouseSchema.Proofs.Column.Collection
import WarehouseSchema.Proofs.Column.Described
import WarehouseSchema.Proofs.Column.DescribedGrammar
import WarehouseSchema.Proofs.Column.DescribedType
import WarehouseSchema.Proofs.Column.Encoded
import WarehouseSchema.Proofs.Column.Entries
import WarehouseSchema.Proofs.Column.Fields
import WarehouseSchema.Proofs.Column.Misread
import WarehouseSchema.Proofs.Column.Reading
import WarehouseSchema.Proofs.Column.RedshiftRow
import WarehouseSchema.Proofs.Column.Restated
import WarehouseSchema.Proofs.Column.TeradataRow
import WarehouseSchema.Proofs.Command.Arguments
import WarehouseSchema.Proofs.Command.Meager
import WarehouseSchema.Proofs.Command.Misshapen
import WarehouseSchema.Proofs.Command.Reported
import WarehouseSchema.Proofs.Command.Status
import WarehouseSchema.Proofs.Command.Unread
import WarehouseSchema.Proofs.Connection.Failing
import WarehouseSchema.Proofs.Connection.LifeCycle
import WarehouseSchema.Proofs.Connection.Serving
import WarehouseSchema.Proofs.Csv.Kind
import WarehouseSchema.Proofs.Csv.Names
import WarehouseSchema.Proofs.Csv.Numeral
import WarehouseSchema.Proofs.Datatype.LengthBounds
import WarehouseSchema.Proofs.Datatype.LengthGrammar
import WarehouseSchema.Proofs.Definition.Acceptance
import WarehouseSchema.Proofs.Definition.Canonical
import WarehouseSchema.Proofs.Definition.Checks
import WarehouseSchema.Proofs.Definition.Evolved
import WarehouseSchema.Proofs.Definition.Reached
import WarehouseSchema.Proofs.Definition.Taxonomy
import WarehouseSchema.Proofs.Inference.Column
import WarehouseSchema.Proofs.Inference.Frame
import WarehouseSchema.Proofs.Inference.Values
import WarehouseSchema.Proofs.Number.Decimal
import WarehouseSchema.Proofs.Number.Magnitude
import WarehouseSchema.Proofs.Outcome
import WarehouseSchema.Proofs.Reflection.Keys
import WarehouseSchema.Proofs.Reflection.Names
import WarehouseSchema.Proofs.Reflection.Question
import WarehouseSchema.Proofs.Reflection.Snowflake
import WarehouseSchema.Proofs.Run.Configured
import WarehouseSchema.Proofs.Run.Connected
import WarehouseSchema.Proofs.Run.Course
import WarehouseSchema.Proofs.Run.Creation
import WarehouseSchema.Proofs.Run.Determined
import WarehouseSchema.Proofs.Run.Exports
import WarehouseSchema.Proofs.Run.Repeated
import WarehouseSchema.Proofs.Run.Replacement
import WarehouseSchema.Proofs.Run.Statements
import WarehouseSchema.Proofs.Run.Verified
import WarehouseSchema.Proofs.Run.Warehouse
import WarehouseSchema.Proofs.Session
import WarehouseSchema.Proofs.Session.Events
import WarehouseSchema.Proofs.Session.Writeless
import WarehouseSchema.Proofs.Statement.Checked
import WarehouseSchema.Proofs.Statement.Clause
import WarehouseSchema.Proofs.Statement.Items
import WarehouseSchema.Proofs.Statement.Parentheses
import WarehouseSchema.Proofs.Statement.Unambiguous
import WarehouseSchema.Proofs.Storage.Folder
import WarehouseSchema.Proofs.Storage.Place
import WarehouseSchema.Proofs.Table.Acceptance
import WarehouseSchema.Proofs.Table.Creatable
import WarehouseSchema.Proofs.Table.Created
import WarehouseSchema.Proofs.Table.Export
import WarehouseSchema.Proofs.Table.Folder
import WarehouseSchema.Proofs.Table.Rebuilt
import WarehouseSchema.Proofs.Text.Cutting
import WarehouseSchema.Proofs.Text.Decimal
import WarehouseSchema.Proofs.Text.Framing
import WarehouseSchema.Proofs.Text.LowerCase
import WarehouseSchema.Proofs.Text.Quoted
import WarehouseSchema.Proofs.Text.Respelled
import WarehouseSchema.Proofs.Text.SameLetters
import WarehouseSchema.Proofs.Text.Words
import WarehouseSchema.Proofs.Value.DigitLimit
import WarehouseSchema.Proofs.Value.Record
import WarehouseSchema.Proofs.Yaml.Making
import WarehouseSchema.Proofs.Yaml.Node
import WarehouseSchema.Proofs.Yaml.Plain
import WarehouseSchema.Proofs.Yaml.Scalar
import WarehouseSchema.Proofs.Yaml.Tokens
import WarehouseSchema.Proofs.Yaml.Untagged
import WarehouseSchema.Proofs.Yaml.Writer
import WarehouseSchema.Quoting
import WarehouseSchema.Reflection.Query
import WarehouseSchema.Reflection.Rows
import WarehouseSchema.Reflection.Schema
import WarehouseSchema.Reflection.Table
import WarehouseSchema.Run
import WarehouseSchema.Session
import WarehouseSchema.Settings
import WarehouseSchema.Shape
import WarehouseSchema.Statement
import WarehouseSchema.Storage.Files
import WarehouseSchema.Storage.Path
import WarehouseSchema.Table
import WarehouseSchema.Table.Description
import WarehouseSchema.Table.Document
import WarehouseSchema.Template
import WarehouseSchema.Text.Basic
import WarehouseSchema.Text.Blank
import WarehouseSchema.Text.Digit
import WarehouseSchema.Text.LetterCase
import WarehouseSchema.Text.Literal
import WarehouseSchema.Text.Printable
import WarehouseSchema.Value
import WarehouseSchema.Value.Entries
import WarehouseSchema.Yaml.Cursor
import WarehouseSchema.Yaml.Document
import WarehouseSchema.Yaml.Node
import WarehouseSchema.Yaml.Scalar
import WarehouseSchema.Yaml.Tag
import WarehouseSchema.Yaml.Token
import WarehouseSchema.Yaml.TokenStream
import WarehouseSchema.Yaml.Writer
