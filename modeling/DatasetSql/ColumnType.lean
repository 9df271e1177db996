import DatasetSql.Text.Case

/-!
# Column types

The types that a dataset column may be declared with.
-/

namespace DatasetSql

/-- The declared type of a column. -/
inductive ColumnType where
  | string
  | integer
  | float
  | datetime
  | boolean
deriving DecidableEq, Repr

namespace ColumnType

/-- Every column type. -/
def all : List ColumnType := [.string, .integer, .float, .datetime, .boolean]

/-- The name of a type in a document. -/
def name : ColumnType → String
  | .string => "string"
  | .integer => "integer"
  | .float => "float"
  | .datetime => "datetime"
  | .boolean => "boolean"

/-- The type with exactly this name. -/
def ofName? (text : String) : Option ColumnType :=
  all.find? (·.name == text)

/-- The type with this name in any ASCII case. -/
def ofAnyCase? (text : String) : Option ColumnType :=
  ofName? (Text.lowerAscii text)

end ColumnType

end DatasetSql
