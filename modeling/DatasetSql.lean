import DatasetSql.ColumnType
import DatasetSql.CommandLine.Arguments
import DatasetSql.CommandLine.Command
import DatasetSql.CommandLine.Run
import DatasetSql.Compile.Check
import DatasetSql.Compile.Path
import DatasetSql.Compile.Query
import DatasetSql.Dialect.Basic
import DatasetSql.Dialect.Functions
import DatasetSql.Edit.Conversion
import DatasetSql.Edit.Error
import DatasetSql.Edit.Mapping
import DatasetSql.Edit.Tables
import DatasetSql.Emit.Query
import DatasetSql.Emit.Token
import DatasetSql.Json.Basic
import DatasetSql.Json.Reader
import DatasetSql.Json.Writer
import DatasetSql.Main
import DatasetSql.Numeric.Double
import DatasetSql.Numeric.Power
import DatasetSql.Numeric.Shortest
import DatasetSql.Proofs.Composition
import DatasetSql.Proofs.Equality
import DatasetSql.Proofs.Mapping
import DatasetSql.Proofs.MarkerOrder
import DatasetSql.Proofs.Markers
import DatasetSql.Proofs.Nodes
import DatasetSql.Proofs.Outcome
import DatasetSql.Proofs.PageWindow
import DatasetSql.Proofs.Quoting
import DatasetSql.Proofs.Renaming
import DatasetSql.Proofs.Substitution
import DatasetSql.Proofs.Template
import DatasetSql.Schema.Basic
import DatasetSql.Schema.Decode
import DatasetSql.Schema.Document
import DatasetSql.Schema.Encode
import DatasetSql.Schema.Error
import DatasetSql.Schema.Source
import DatasetSql.Settings.Basic
import DatasetSql.Settings.Variables
import DatasetSql.Statement.Basic
import DatasetSql.Statement.Collect
import DatasetSql.Statement.Grammar
import DatasetSql.Statement.Keyword
import DatasetSql.Statement.Lexeme
import DatasetSql.Statement.Lexer
import DatasetSql.Statement.Literal
import DatasetSql.Statement.Parser.Access
import DatasetSql.Statement.Parser.Alteration
import DatasetSql.Statement.Parser.Call
import DatasetSql.Statement.Parser.Change
import DatasetSql.Statement.Parser.Column
import DatasetSql.Statement.Parser.Core
import DatasetSql.Statement.Parser.Definition
import DatasetSql.Statement.Parser.Expr
import DatasetSql.Statement.Parser.Maintenance
import DatasetSql.Statement.Parser.Nested
import DatasetSql.Statement.Parser.Operand
import DatasetSql.Statement.Parser.Precedence
import DatasetSql.Statement.Parser.Query
import DatasetSql.Statement.Parser.Relation
import DatasetSql.Statement.Parser.Routine
import DatasetSql.Statement.Parser.Session
import DatasetSql.Statement.Parser.Setting
import DatasetSql.Statement.Parser.Stage
import DatasetSql.Statement.Parser.Statement
import DatasetSql.Statement.Parser.Table
import DatasetSql.Statement.Parser.Type
import DatasetSql.Statement.Parser.Window
import DatasetSql.Statement.Pass
import DatasetSql.Statement.Phrase
import DatasetSql.Statement.Printer
import DatasetSql.Statement.Quoting
import DatasetSql.Statement.Shape
import DatasetSql.Text.Blank
import DatasetSql.Text.Case
import DatasetSql.Text.Letter
import DatasetSql.Text.Search
import DatasetSql.Toml.Basic
import DatasetSql.Toml.Quoted
import DatasetSql.Toml.Reader
import DatasetSql.Toml.Scalar
import DatasetSql.Toml.Tree
import DatasetSql.Toml.Writer
import DatasetSql.Transform.Params
import DatasetSql.Transform.Pipeline
import DatasetSql.Transform.Rule
import DatasetSql.Proofs.Checked
import DatasetSql.Proofs.Acceptance
import DatasetSql.Proofs.Encoding
import DatasetSql.Proofs.Persistence
import DatasetSql.Proofs.Evaluation
import DatasetSql.Proofs.Precedence
import DatasetSql.Proofs.Grouping
import DatasetSql.Proofs.Atoms
import DatasetSql.Proofs.Writable
import DatasetSql.Proofs.Compilation
import DatasetSql.Proofs.QuotedString
import DatasetSql.Proofs.Collecting
import DatasetSql.Proofs.Reported
import DatasetSql.Proofs.Spelling
import DatasetSql.Proofs.Boundaries
import DatasetSql.Proofs.Settling
import DatasetSql.Proofs.TargetForm
import DatasetSql.Proofs.Capture
import DatasetSql.Proofs.JoinChain
import DatasetSql.Proofs.RowCount
import DatasetSql.Proofs.FiniteNumbers
import DatasetSql.Proofs.Visibility
import DatasetSql.Proofs.Literals
import DatasetSql.Proofs.RestoredLiterals
import DatasetSql.Proofs.Restoring
import DatasetSql.Proofs.Decimals
import DatasetSql.Proofs.KeyOrder
import DatasetSql.Proofs.Reloading
import DatasetSql.Proofs.Toml.Document
import DatasetSql.Proofs.Toml.Schemas
import DatasetSql.Proofs.Planning
import DatasetSql.Proofs.TableList
import DatasetSql.Proofs.Reworking
import DatasetSql.Proofs.RowWindow
import DatasetSql.Proofs.SelectList
import DatasetSql.Proofs.Coverage
import DatasetSql.Proofs.CaseFolding
import DatasetSql.Proofs.References
import DatasetSql.Proofs.OutputNames
import DatasetSql.Proofs.PageText
import DatasetSql.Proofs.Buckets
import DatasetSql.Proofs.Clipping
import DatasetSql.Proofs.Paths
import DatasetSql.Proofs.Expansion
import DatasetSql.Proofs.Stages
import DatasetSql.Proofs.QuotedNames
import DatasetSql.Proofs.Conformity
import DatasetSql.Proofs.OtherKeys
import DatasetSql.Proofs.Transparency
