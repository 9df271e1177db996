import DatasetSql.ColumnType
import DatasetSql.Dialect.Functions
import DatasetSql.Text.Blank
import DatasetSql.Text.Search

/-!
# SQL dialects

What the supported databases disagree on when SQL is written for them: how identifiers are
delimited and folded, how literals and page windows are spelled, and which names functions and
types go by.
-/

namespace DatasetSql

/-- A supported SQL dialect. -/
inductive Dialect where
  | duckdb
  | postgres
  | mysql
  | tsql
  | snowflake
  | bigquery
  | redshift
  | databricks
  | oracle
deriving DecidableEq, Repr

/-- How the page window of a statement is spelled. -/
inductive Paging where
  /-- `LIMIT n OFFSET m` -/
  | limit
  /-- `OFFSET m ROWS FETCH NEXT n ROWS ONLY`, legal only after an `ORDER BY` -/
  | offsetFetch
  /-- `OFFSET m ROWS FETCH FIRST n ROWS ONLY` -/
  | fetchFirst
deriving DecidableEq, Repr

namespace Dialect

/-- Every dialect. -/
def all : List Dialect :=
  [.duckdb, .postgres, .mysql, .tsql, .snowflake, .bigquery, .redshift, .databricks, .oracle]

/-- The canonical name of a dialect. -/
def name : Dialect → String
  | .duckdb => "duckdb"
  | .postgres => "postgres"
  | .mysql => "mysql"
  | .tsql => "tsql"
  | .snowflake => "snowflake"
  | .bigquery => "bigquery"
  | .redshift => "redshift"
  | .databricks => "databricks"
  | .oracle => "oracle"

/-- Other names under which a dialect is known. -/
def aliases : Dialect → List String
  | .postgres => ["postgresql"]
  | .mysql => ["mariadb"]
  | .tsql => ["mssql", "sqlserver"]
  | .databricks => ["spark"]
  | _ => []

/-- The dialect with exactly this canonical name. -/
def ofCanonical? (text : String) : Option Dialect :=
  all.find? (·.name == text)

/-- The dialect with this name or alias, up to case and surrounding blanks. -/
def ofName? (text : String) : Option Dialect :=
  let key := Text.lower (Text.trim text)
  all.find? fun d => d.name == key || d.aliases.contains key

/-! ## Identifiers -/

/-- The opening delimiter of a quoted identifier. -/
def quote : Dialect → Char
  | .mysql | .bigquery | .databricks => '`'
  | .tsql => '['
  | _ => '"'

/-- The delimiter that closes what another one opens. -/
def closingQuote (opening : Char) : Char :=
  if opening == '[' then ']' else opening

/-- A quoted identifier; the closing delimiter is doubled inside. -/
def quoteIdentifier (d : Dialect) (name : String) : String :=
  Text.enclosed d.quote (closingQuote d.quote) name

/-- The name that a bare identifier denotes. -/
def foldIdentifier : Dialect → String → String
  | .snowflake, name | .oracle, name => Text.upper name
  | _, name => Text.lower name

/-! ## Literals -/

/-- Whether every character is ASCII. -/
def isAscii (s : String) : Bool := s.toList.all (·.toNat < 0x80)

/-- A string literal; a quote inside is doubled. -/
def quoteString (d : Dialect) (s : String) : String :=
  let literal := Text.enclosed '\'' '\'' s
  if d == .tsql && !isAscii s then "N" ++ literal else literal

/-- Whether truth values are written as numbers. -/
def numericBooleans : Dialect → Bool
  | .mysql | .tsql | .oracle => true
  | _ => false

/-- A truth value. -/
def booleanText (d : Dialect) (b : Bool) : String :=
  match d.numericBooleans, b with
  | true, true => "1"
  | true, false => "0"
  | false, true => "true"
  | false, false => "false"

/-- The null value. -/
def nullText (_ : Dialect) : String := "NULL"

/-! ## Paging and operators -/

/-- How the page window of a statement is spelled. -/
def paging : Dialect → Paging
  | .tsql => .offsetFetch
  | .oracle => .fetchFirst
  | _ => .limit

/-- Whether there is a `LIMIT` clause. -/
def acceptsLimit : Dialect → Bool
  | .tsql | .oracle => false
  | _ => true

/-- Whether `OFFSET` is legal only after an `ORDER BY`. -/
def orderedOffset : Dialect → Bool
  | .tsql => true
  | _ => false

/-- The concatenation operator; where there is none, the standard one. -/
def concatOperator : Dialect → String
  | .tsql => "+"
  | _ => "||"

/-- Whether concatenation has an operator, or else is a function. -/
def hasConcatOperator : Dialect → Bool
  | .mysql => false
  | _ => true

/-! ## Functions and types -/

/-- The function names that differ from those of other dialects. -/
def functionNames : Dialect → List (String × String)
  | .duckdb => FunctionNames.duckdb
  | .postgres | .redshift => FunctionNames.postgres
  | .mysql => FunctionNames.mysql
  | .tsql => FunctionNames.tsql
  | .snowflake => FunctionNames.snowflake
  | .bigquery => FunctionNames.bigquery
  | .databricks => FunctionNames.databricks
  | .oracle => FunctionNames.oracle

/-- The dialect's own name for a function known elsewhere by the given name, in any case. -/
def functionName? (d : Dialect) (name : String) : Option String :=
  d.functionNames.lookup (Text.upper name)

/-- The type that a column type is cast to. -/
def typeName : Dialect → ColumnType → String
  | .mysql, .boolean => "UNSIGNED"
  | .mysql, .integer => "SIGNED"
  | .mysql, .float => "DOUBLE"
  | .mysql, .string => "CHAR"
  | .mysql, .datetime => "DATETIME"
  | .tsql, .boolean => "BIT"
  | .tsql, .integer => "BIGINT"
  | .tsql, .float => "FLOAT"
  | .tsql, .string => "NVARCHAR(MAX)"
  | .tsql, .datetime => "DATETIME2"
  | .snowflake, .boolean => "BOOLEAN"
  | .snowflake, .integer => "BIGINT"
  | .snowflake, .float => "DOUBLE"
  | .snowflake, .string => "VARCHAR"
  | .snowflake, .datetime => "TIMESTAMP_NTZ"
  | .bigquery, .boolean => "BOOL"
  | .bigquery, .integer => "INT64"
  | .bigquery, .float => "FLOAT64"
  | .bigquery, .string => "STRING"
  | .bigquery, .datetime => "TIMESTAMP"
  | .databricks, .boolean => "BOOLEAN"
  | .databricks, .integer => "BIGINT"
  | .databricks, .float => "DOUBLE"
  | .databricks, .string => "STRING"
  | .databricks, .datetime => "TIMESTAMP"
  | .oracle, .boolean => "NUMBER(1)"
  | .oracle, .integer => "NUMBER(19)"
  | .oracle, .float => "BINARY_DOUBLE"
  | .oracle, .string => "VARCHAR2(4000)"
  | .oracle, .datetime => "TIMESTAMP"
  | .duckdb, t | .postgres, t | .redshift, t =>
    match t with
    | .boolean => "BOOLEAN"
    | .integer => "BIGINT"
    | .float => "DOUBLE PRECISION"
    | .string => "TEXT"
    | .datetime => "TIMESTAMP"

/-- Whether files can be read in a `FROM` clause. -/
def scansFiles (d : Dialect) : Bool := d == .duckdb

/-- The marker that stands for a bound parameter. -/
def placeholder (d : Dialect) : String := if d == .duckdb then "?" else "%s"

end Dialect

end DatasetSql
