import DatasetSql.Json.Reader
import DatasetSql.Schema.Document
import DatasetSql.Toml.Reader

/-!
# Reading schema documents

A record is read from the fields of an object, or from a list that has its fields in order. Fields
that are not known are passed over, and a known one must not be repeated. A field that may be left
out may be null in JSON. Whatever does not fit is one and the same error.
-/

namespace DatasetSql

open Json (Data)

/-- The format of a document. The two differ in small things: a list that stands for a record may be
too long in TOML, and a type may be written as a table with an empty value for null. -/
inductive DocumentFormat where
  | json
  | toml
deriving DecidableEq, Repr

namespace Decode

/-! ## Leaves -/

/-- A text. -/
def string? : Data → Option String
  | .text s => s
  | _ => none

/-- A truth value. -/
def bool? : Data → Option Bool
  | .bool b => some b
  | _ => none

/-- A natural number up to a bound. -/
def natUpTo? (bound : Nat) : Data → Option Nat
  | .number n => n.bind fun n => n.nat?.filter (· ≤ bound)
  | _ => none

/-- An unsigned number of 64 bits. -/
def word? : Data → Option Nat := natUpTo? (Numeric.wordCount - 1)

/-- The number of a port. -/
def port? : Data → Option Nat := natUpTo? 65535

/-- A list of things of one kind. -/
def list? {α : Type} (item? : Data → Option α) : Data → Option (List α)
  | .list items => items.mapM item?
  | _ => none

/-! ## Records -/

/-- Whether a name occurs more than once among keys. -/
def isRepeated (keys : List (Option String)) (name : String) : Bool :=
  1 < keys.count (some name)

/-- The fields of a record in the order of their names; `none` where one is missing. -/
def fields? (format : DocumentFormat) (names : List String) : Data → Option (List (Option Data))
  | .record fields =>
    let keys := fields.map (·.1)
    if keys.contains none || names.any (isRepeated keys) then none
    else some (names.map fun name => fields.lookup (some name))
  | .list items =>
    if format = .json ∧ names.length < items.length then none
    else some ((List.range names.length).map (items[·]?))
  | _ => none

/-- A field that may be left out or be null. -/
def optional? {α : Type} (read? : Data → Option α) : Option Data → Option (Option α)
  | none | some .null => some none
  | some data => (read? data).map some

/-- A field with a value for the case that it is left out. -/
def defaulted? {α : Type} (default : α) (read? : Data → Option α) : Option Data → Option α
  | none => some default
  | some data => read? data

/-! ## Parts of a schema -/

/-- Whether data stands for nothing, as the value beside the name of a type. -/
def isNothing : DocumentFormat → Data → Bool
  | .json, .null => true
  | .toml, .list [] | .toml, .record [] => true
  | _, _ => false

/-- The type of a column: its name, or a record whose only key is the name. -/
def columnType? (format : DocumentFormat) : Data → Option ColumnType
  | .text name => do ColumnType.ofName? (← name)
  | .record [(name, value)] =>
    if isNothing format value then do ColumnType.ofName? (← name) else none
  | _ => none

/-- A column. -/
def column? (format : DocumentFormat) (data : Data) : Option Column := do
  match ← fields? format ["name", "type", "expression", "alias", "description"] data with
  | [name, type, expression, asName, description] =>
    return {
      name := ← string? (← name), type := ← columnType? format (← type),
      expression := ← optional? string? expression, asName := ← optional? string? asName,
      description := ← optional? string? description }
  | _ => none

/-- A connection. -/
def connection? (format : DocumentFormat) (data : Data) : Option Connection := do
  match ← fields? format ["host", "port", "user", "password", "database", "schema"] data with
  | [host, port, user, password, database, schema] =>
    return {
      host := ← string? (← host), port := ← optional? port? port, user := ← optional? string? user,
      password := ← optional? string? password, database := ← string? (← database),
      schema := ← optional? string? schema }
  | _ => none

/-- A relation of a view. -/
def link? (format : DocumentFormat) (data : Data) : Option Link := do
  match ← fields? format ["name", "description", "from", "to"] data with
  | [name, description, source, target] =>
    return {
      name := ← optional? string? name, description := ← optional? string? description,
      source := ← string? (← source), target := ← string? (← target) }
  | _ => none

/-- A source. -/
def source? (format : DocumentFormat) (data : Data) : Option SourceDocument := do
  match ← fields? format ["type", "path", "table", "connection"] data with
  | [type, path, table, connection] =>
    return {
      type := ← string? (← type), path := ← optional? string? path,
      table := ← optional? string? table,
      connection := ← optional? (connection? format) connection }
  | _ => none

/-- A transformation; its parameters may be nested up to a limit. -/
def transformation? (format : DocumentFormat) (limit : Option Nat) (data : Data) :
    Option TransformationDocument := do
  match ← fields? format ["type", "params"] data with
  | [type, params] =>
    return { type := ← string? (← type),
             params := ← defaulted? .null (Data.value? limit) params }
  | _ => none

/-- A schema document; the parameters in it may be nested up to a limit. -/
def schema? (format : DocumentFormat) (paramsLimit : Option Nat) (data : Data) :
    Option SchemaDocument := do
  match ← fields? format
      ["name", "description", "limit", "view", "group_by", "order_by", "source", "columns",
        "relations", "transformations"] data with
  | [name, description, limit, view, groupBy, orderBy, source, columns, relations,
      transformations] =>
    return {
      name := ← string? (← name), description := ← optional? string? description,
      limit := ← optional? word? limit, view := ← defaulted? false bool? view,
      groupBy := ← defaulted? [] (list? string?) groupBy,
      orderBy := ← defaulted? [] (list? string?) orderBy,
      source := ← optional? (source? format) source,
      columns := ← defaulted? [] (list? (column? format)) columns,
      relations := ← defaulted? [] (list? (link? format)) relations,
      transformations :=
        ← defaulted? [] (list? (transformation? format paramsLimit)) transformations }
  | _ => none

end Decode

namespace SchemaDocument

/-- The error of a document that cannot be read. -/
def unreadable : SchemaError := .document none

/-- How deep parameters may be nested in a text: they stand in three others. -/
def paramsDepth : Nat := Json.maxDepth - 3

/-- The document of a text in JSON, seen as data. -/
def ofData (data : Data) : Except SchemaError SchemaDocument :=
  (Decode.schema? .json (some paramsDepth) data).elim (.error unreadable) .ok

/-- The document of a JSON value, which may be nested to any depth. -/
def ofValue (v : Json.Value) : Except SchemaError SchemaDocument :=
  (Decode.schema? .json none v.data).elim (.error unreadable) .ok

/-- Reads a document in JSON. -/
def parseJson (text : String) : Except SchemaError SchemaDocument :=
  (Data.parse? text).elim (.error unreadable) ofData

/-- Reads a document in TOML. -/
def parseToml (text : String) : Except SchemaError SchemaDocument :=
  match Toml.parse? text with
  | some table =>
    (Decode.schema? .toml (some paramsDepth) (Toml.Value.table table).data).elim
      (.error unreadable) .ok
  | none => .error unreadable

/-- Reads a document in the given format. -/
def parse (format : DocumentFormat) (text : String) : Except SchemaError SchemaDocument :=
  match format with
  | .json => parseJson text
  | .toml => parseToml text

end SchemaDocument

/-- Reads a schema in the given format. -/
def Schema.parse (format : DocumentFormat) (text : String) : Except SchemaError Schema := do
  (← SchemaDocument.parse format text).toSchema

end DatasetSql
