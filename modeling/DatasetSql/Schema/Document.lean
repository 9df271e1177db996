import DatasetSql.Schema.Basic

/-!
# Schema documents

The form in which a schema is kept in a file. A document says what is in the file and nothing more;
`toSchema` checks it, and `ofSchema` is the document of a schema that has been checked.
-/

namespace DatasetSql

/-- Where the rows come from, as it is written. -/
structure SourceDocument where
  type : String
  path : Option String := none
  table : Option String := none
  connection : Option Connection := none
deriving DecidableEq, Repr

/-- What is done to the rows, as it is written. -/
structure TransformationDocument where
  type : String
  params : Json.Value := .null

/-- A schema as it is written. -/
structure SchemaDocument where
  name : String
  description : Option String := none
  limit : Option Nat := none
  view : Bool := false
  groupBy : List String := []
  orderBy : List String := []
  source : Option SourceDocument := none
  columns : List Column := []
  relations : List Link := []
  transformations : List TransformationDocument := []

/-- The source that is described for a schema of the given name. -/
def SourceDocument.toSource (s : SourceDocument) (schema : String) :
    Except SchemaError DatasetSource :=
  match FileFormat.ofName? s.type, Engine.ofName? s.type with
  | some format, _ =>
    match s.path with
    | some path => .ok (.file format path)
    | none => .error (.invalidSchema schema (format.name ++ " source needs a path"))
  | none, some engine =>
    match s.connection, s.table with
    | none, _ => .error (.invalidSchema schema (engine.name ++ " source needs a connection"))
    | some _, none => .error (.invalidSchema schema (engine.name ++ " source needs a table"))
    | some connection, some table => .ok (.relational engine connection table)
  | none, none => .error (.unsupportedSource s.type)

namespace SchemaDocument

/-- The source of a schema: described, or a view over the relations. -/
def datasetSource (d : SchemaDocument) : Except SchemaError DatasetSource :=
  match d.source, d.view with
  | some _, true =>
    .error (.invalidSchema d.name "a schema has either a source or `view = true`, not both")
  | none, false => .error (.invalidSchema d.name "a schema needs a source or `view = true`")
  | none, true => .ok (.view d.relations)
  | some source, false =>
    if d.relations.isEmpty then source.toSource d.name
    else .error (.invalidSchema d.name "relations are only allowed on views")

/-- The schema that a document describes. -/
def toSchema (d : SchemaDocument) : Except SchemaError Schema := do
  let source ← d.datasetSource
  let transformations ← d.transformations.mapM fun t => Transformation.read t.type t.params
  SchemaDraft.build {
    name := d.name, source, description := d.description, columns := d.columns, transformations,
    groupBy := d.groupBy, orderBy := d.orderBy, limit := d.limit }

end SchemaDocument

/-- The description of a source; a view has none. -/
def DatasetSource.document? : DatasetSource → Option SourceDocument
  | .file format path => some { type := format.name, path := some path }
  | .relational engine connection table =>
    some { type := engine.name, table := some table, connection := some connection }
  | .view _ => none

/-- The links of a view. -/
def DatasetSource.links : DatasetSource → List Link
  | .view links => links
  | .file _ _ | .relational _ _ _ => []

/-- The document of a transformation. -/
def Transformation.document (t : Transformation) : TransformationDocument :=
  { type := t.kind.name, params := .object t.params }

/-- The document of a schema. -/
def Schema.document (s : Schema) : SchemaDocument where
  name := s.name
  description := s.description
  limit := s.limit
  view := s.source.isView
  groupBy := s.groupBy
  orderBy := s.orderBy.map (·.text)
  source := s.source.document?
  columns := s.columns
  relations := s.source.links
  transformations := s.transformations.map (·.document)

end DatasetSql
