import DatasetSql.Schema.Error
import DatasetSql.Statement.Parser.Statement
import DatasetSql.Statement.Printer
import DatasetSql.Statement.Quoting

/-!
# Checking generated SQL

A statement leaves the compiler only after it has been read back. Its identifiers are quoted and it
is written again, so what is handed out is exactly what was read.
-/

namespace DatasetSql

/-- Why a schema cannot be compiled. -/
inductive CompileError where
  | schema (error : SchemaError)
  /-- The text does not read as one statement; the detail is there if the number is wrong. -/
  | invalidQuery (schema sql : String) (detail : Option String)
  | unsupportedFormat (schema format : String) (dialect : Dialect)
  | invalidGroupBy (schema column : String)
  | invalidPath (path : String)
  /-- A number cannot be written. -/
  | unwritable (error : Emit.RenderError)
deriving DecidableEq, Repr

/-- What is said about an error. -/
def CompileError.message : CompileError → String
  | .schema error => "Schema error: " ++ error.message
  | .invalidQuery name sql detail =>
    "Generated SQL for schema '" ++ name ++ "' does not parse: " ++ detail.getD "" ++ "\n" ++ sql
  | .unsupportedFormat name format dialect =>
    "Schema '" ++ name ++ "' reads a " ++ format ++ " file, which " ++ dialect.name ++
      " cannot scan"
  | .invalidGroupBy name column =>
    "Schema '" ++ name ++ "' cannot group by expression column '" ++ column ++ "'"
  | .invalidPath path => "Invalid source path '" ++ path ++ "': "
  | .unwritable error => error.message

/-- Reads a text as one statement of a dialect, quotes its identifiers and writes it again. -/
def checkGenerated (sql : String) (d : Dialect) (schema : String) : Except CompileError String :=
  match Statement.parseAll (.of (some d)) sql with
  | .error _ => .error (.invalidQuery schema sql none)
  | .ok [s] => .ok (Statement.quoteNames d s).text
  | .ok ss =>
    .error (.invalidQuery schema sql
      (some ("expected one statement, found " ++ toString ss.length)))

end DatasetSql
