import DatasetSql.Dialect.Basic
import DatasetSql.Settings.Variables

/-!
# Sources of datasets

A dataset reads a file, a table of a database, or a view that joins other datasets. The links of a
view are put into a chain of joins, each of which brings one more table.
-/

namespace DatasetSql

/-- A file format that can be read in place. -/
inductive FileFormat where
  | csv
  | parquet
  | xlsx
  | xls
deriving DecidableEq, Repr

namespace FileFormat

/-- Every file format. -/
def all : List FileFormat := [.csv, .parquet, .xlsx, .xls]

/-- The name of a format in a document. -/
def name : FileFormat → String
  | .csv => "csv"
  | .parquet => "parquet"
  | .xlsx => "xlsx"
  | .xls => "xls"

/-- The table function that reads a format. -/
def scanFunction : FileFormat → String
  | .csv => "read_csv"
  | .parquet => "read_parquet"
  | .xlsx | .xls => "read_excel"

/-- The format with this name in any ASCII case. -/
def ofName? (text : String) : Option FileFormat := all.find? (·.name == Text.lowerAscii text)

end FileFormat

/-- A database engine. -/
inductive Engine where
  | mysql
  | postgres
  | sqlserver
  | oracle
deriving DecidableEq, Repr

namespace Engine

/-- Every engine. -/
def all : List Engine := [.mysql, .postgres, .sqlserver, .oracle]

/-- The name of an engine in a document. -/
def name : Engine → String
  | .mysql => "mysql"
  | .postgres => "postgres"
  | .sqlserver => "sqlserver"
  | .oracle => "oracle"

/-- Other names of an engine. -/
def aliases : Engine → List String
  | .postgres => ["postgresql"]
  | .sqlserver => ["mssql"]
  | _ => []

/-- The engine with this name or alias in any ASCII case. -/
def ofName? (text : String) : Option Engine :=
  let key := Text.lowerAscii text
  all.find? fun e => e.name == key || e.aliases.contains key

/-- The dialect that an engine speaks. -/
def dialect : Engine → Dialect
  | .mysql => .mysql
  | .postgres => .postgres
  | .sqlserver => .tsql
  | .oracle => .oracle

/-- The port that an engine listens on by default. -/
def defaultPort : Engine → Nat
  | .mysql => 3306
  | .postgres => 5432
  | .sqlserver => 1433
  | .oracle => 1521

end Engine

/-- How a database is reached. -/
structure Connection where
  host : String
  port : Option Nat := none
  user : Option String := none
  password : Option String := none
  database : String
  schema : Option String := none
deriving DecidableEq, Repr

namespace Connection

/-- The port given, or else the engine's own. -/
def portFor (c : Connection) (e : Engine) : Nat := c.port.getD e.defaultPort

/-- The password with its variables replaced. -/
def resolvedPassword (env : Environment) (c : Connection) : Except SettingsError (Option String) :=
  match c.password with
  | none => .ok none
  | some text => some <$> expandVariables env text

end Connection

/-- An equality between columns of two datasets, each written `table.column`. -/
structure Link where
  name : Option String := none
  description : Option String := none
  source : String
  target : String
deriving DecidableEq, Repr

/-- Where the rows of a dataset come from. -/
inductive DatasetSource where
  | file (format : FileFormat) (path : String)
  | relational (engine : Engine) (connection : Connection) (table : String)
  | view (links : List Link)
deriving DecidableEq, Repr

namespace DatasetSource

/-- Whether a source is a view. -/
def isView : DatasetSource → Bool
  | .view _ => true
  | _ => false

/-- The name of a source's type in a document. -/
def typeName : DatasetSource → String
  | .file format _ => format.name
  | .relational engine _ _ => engine.name
  | .view _ => "view"

/-- The dialect that a source is read with by default. -/
def dialect : DatasetSource → Dialect
  | .relational engine _ _ => engine.dialect
  | .file _ _ | .view _ => .duckdb

end DatasetSource

/-- The table and the column of a name `table.column`; neither is empty. -/
def qualifiedName? (name : String) : Option (String × String) :=
  (Text.splitOnce '.' name).filter fun (table, column) => !table.isEmpty && !column.isEmpty

/-! ## Views -/

/-- A column of a table. -/
abbrev TableColumn := String × String

/-- One join of a view. -/
structure JoinStep where
  table : String
  left : TableColumn
  right : TableColumn
deriving DecidableEq, Repr

/-- The tables of a view: the first, and those that are joined to it in order. -/
structure ViewPlan where
  base : String
  joins : List JoinStep := []
deriving DecidableEq, Repr

namespace ViewPlan

/-- The tables of a view, the first one first. -/
def tables (p : ViewPlan) : List String := p.base :: p.joins.map (·.table)

/-- Whether a view reads a table. -/
def contains (p : ViewPlan) (table : String) : Bool := p.tables.contains table

end ViewPlan

/-- How a link is called in messages. -/
def Link.label (l : Link) : String := "'" ++ l.source ++ " = " ++ l.target ++ "'"

/-- The columns that a link equates. -/
def Link.ends (l : Link) : Except String (TableColumn × TableColumn) :=
  match qualifiedName? l.source, qualifiedName? l.target with
  | none, _ => .error ("relation source '" ++ l.source ++ "' is not `table.column`")
  | some _, none => .error ("relation target '" ++ l.target ++ "' is not `table.column`")
  | some left, some right =>
    if left.1 == right.1 then
      .error ("relation " ++ l.label ++ " joins a table to itself")
    else .ok (left, right)

/-- The plan with one more join; a link must bring exactly one new table. -/
def ViewPlan.extend (p : ViewPlan) (l : Link) : Except String ViewPlan := do
  let (left, right) ← l.ends
  match p.contains left.1, p.contains right.1 with
  | true, false => return { p with joins := p.joins ++ [⟨right.1, left, right⟩] }
  | false, true => return { p with joins := p.joins ++ [⟨left.1, left, right⟩] }
  | true, true => throw ("relation " ++ l.label ++ " joins two tables that are already joined")
  | false, false =>
    throw ("relation " ++ l.label ++ " is not connected to the preceding relations")

/-- The plan of a view without links, which reads the only table that its columns name. -/
def planWithoutLinks (fallback : List String) : Except String ViewPlan :=
  match Text.firstOccurrences fallback with
  | [table] => .ok ⟨table, []⟩
  | [] => .error "a view needs relations or qualified `table.column` columns"
  | tables =>
    .error ("tables " ++ Text.joined ", " tables ++ " are not connected by any relation")

/-- Puts the links of a view into a chain of joins. -/
def ViewPlan.ofLinks (links : List Link) (fallback : List String) : Except String ViewPlan :=
  match links with
  | [] => planWithoutLinks fallback
  | first :: rest => do
    let (left, right) ← first.ends
    rest.foldlM ViewPlan.extend ⟨left.1, [⟨right.1, left, right⟩]⟩

end DatasetSql
