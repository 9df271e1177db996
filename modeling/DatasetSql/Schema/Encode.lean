import DatasetSql.Json.Writer
import DatasetSql.Schema.Document
import DatasetSql.Toml.Writer

/-!
# Writing schema documents

A document is written as an object with its fields in a fixed order; what is not there, is empty or
is false is left out.
-/

namespace DatasetSql

open Json (Value)

namespace Encode

/-- A field that is left out if it is not there. -/
def optional {α : Type} (key : String) (write : α → Value) : Option α → List (String × Value)
  | none => []
  | some a => [(key, write a)]

/-- A list that is left out if it is empty. -/
def nonEmpty {α : Type} (key : String) (write : α → Value) : List α → List (String × Value)
  | [] => []
  | items => [(key, .array (items.map write))]

/-- A natural number as a value. -/
def nat (n : Nat) : Value := .number (.int n)

/-- A column as a value. -/
def column (c : Column) : Value :=
  .object ([("name", .string c.name), ("type", .string c.type.name)] ++
    optional "expression" .string c.expression ++ optional "alias" .string c.asName ++
    optional "description" .string c.description)

/-- A connection as a value. -/
def connection (c : Connection) : Value :=
  .object ([("host", .string c.host)] ++ optional "port" nat c.port ++
    optional "user" .string c.user ++ optional "password" .string c.password ++
    [("database", .string c.database)] ++ optional "schema" .string c.schema)

/-- A relation as a value. -/
def link (l : Link) : Value :=
  .object (optional "name" .string l.name ++ optional "description" .string l.description ++
    [("from", .string l.source), ("to", .string l.target)])

/-- A source as a value. -/
def source (s : SourceDocument) : Value :=
  .object ([("type", .string s.type)] ++ optional "path" .string s.path ++
    optional "table" .string s.table ++ optional "connection" connection s.connection)

/-- A transformation as a value. -/
def transformation (t : TransformationDocument) : Value :=
  .object [("type", .string t.type), ("params", t.params)]

end Encode

namespace SchemaDocument

open Encode

/-- A document as a value. -/
def value (d : SchemaDocument) : Value :=
  .object ([("name", .string d.name)] ++ optional "description" .string d.description ++
    optional "limit" nat d.limit ++ (if d.view then [("view", .bool true)] else []) ++
    nonEmpty "group_by" .string d.groupBy ++ nonEmpty "order_by" .string d.orderBy ++
    optional "source" Encode.source d.source ++ nonEmpty "columns" column d.columns ++
    nonEmpty "relations" link d.relations ++
    nonEmpty "transformations" transformation d.transformations)

/-- A document in JSON over several lines. -/
def jsonText (d : SchemaDocument) : String := d.value.pretty

/-- A document in TOML; null has no text there. -/
def tomlText (d : SchemaDocument) : Except SchemaError String :=
  (Toml.render? d.value).elim (.error (.document none)) .ok

end SchemaDocument

end DatasetSql
