import DatasetSql.Schema.Source
import DatasetSql.Statement.Parser.Statement
import DatasetSql.Transform.Params

/-!
# Schemas

A schema describes one dataset: its columns, where its rows come from, what is done to them and how
they are grouped, sorted and capped. A draft becomes a schema only if everything in it fits
together.
-/

namespace DatasetSql

/-! ## Parts -/

/-- A column of a dataset: an expression takes the place of the physical column, an alias names the
output. -/
structure Column where
  name : String
  type : ColumnType
  expression : Option String := none
  asName : Option String := none
  description : Option String := none
deriving DecidableEq, Repr

/-- The table and the column that a column of a view names. -/
def Column.qualifiedParts (c : Column) : Option (String × String) := qualifiedName? c.name

/-- Whether a column has this name, up to ASCII case. -/
def Column.isNamed (name : String) (c : Column) : Bool := Text.eqIgnoreCase c.name name

/-- A sort key: a column and a direction. -/
structure SortKey where
  column : String
  direction : Option Emit.SortDirection := none
deriving DecidableEq, Repr

namespace SortKey

/-- A direction by name, in any ASCII case. -/
def direction? (word : String) : Option Emit.SortDirection :=
  if Text.eqIgnoreCase word "asc" then some .asc
  else if Text.eqIgnoreCase word "desc" then some .desc
  else none

/-- Reads a column name that a direction may follow. -/
def read? (text : String) : Option SortKey :=
  match Text.words text with
  | [column] => some ⟨column, none⟩
  | [column, word] => (direction? word).map fun d => ⟨column, some d⟩
  | _ => none

/-- The text of a sort key. -/
def text (o : SortKey) : String :=
  match o.direction with
  | none => o.column
  | some .asc => o.column ++ " ASC"
  | some .desc => o.column ++ " DESC"

end SortKey

/-- How long the name of a dataset may be. -/
def maxNameLength : Nat := 64

/-- Whether a name of a dataset may contain this character. -/
def isNameChar (c : Char) : Bool :=
  ('a' ≤ c && c ≤ 'z') || ('0' ≤ c && c ≤ '9') || c == '_'

/-- The name of a dataset: lower case, other characters than letters, digits and underscores
replaced, and not too long. -/
def cleanName (name : String) : String :=
  let chars := (Text.lower (Text.trim name)).toList.map fun c => if isNameChar c then c else '_'
  String.ofList (chars.take maxNameLength)

/-- Whether a name starts with a letter or an underscore and goes on with letters, digits and
underscores. -/
def isValidName (name : String) : Bool :=
  match name.toList with
  | [] => false
  | c :: cs => isNameChar c && !c.isDigit && cs.all isNameChar

/-! ## Schemas and drafts -/

/-- The description of a dataset, checked. -/
structure Schema where
  name : String
  description : Option String
  columns : List Column
  source : DatasetSource
  transformations : List Transformation
  groupBy : List String
  orderBy : List SortKey
  limit : Option Nat
  plan : Option ViewPlan

namespace Schema

/-- The column with this name, up to ASCII case. -/
def column? (s : Schema) (name : String) : Option Column := s.columns.find? (·.isNamed name)

/-- The schema with another description, or with none. -/
def setDescription (s : Schema) (description : Option String) : Schema := { s with description }

/-- Whether repeated rows are dropped. -/
def distinct (s : Schema) : Bool := s.transformations.any (·.kind == .removeDuplicates)

/-- Equality of lists of transformations. -/
def sameTransformations : List Transformation → List Transformation → Bool
  | [], [] => true
  | a :: as, b :: bs => a.same b && sameTransformations as bs
  | _, _ => false

/-- Equality of schemas; the order of parameters is not compared. -/
def same (a b : Schema) : Bool :=
  a.name == b.name && a.description == b.description && a.columns == b.columns &&
    a.source == b.source && sameTransformations a.transformations b.transformations &&
    a.groupBy == b.groupBy && a.orderBy == b.orderBy && a.limit == b.limit && a.plan == b.plan

end Schema

/-- The description of a dataset before it is checked. -/
structure SchemaDraft where
  name : String
  source : DatasetSource
  description : Option String := none
  columns : List Column := []
  transformations : List Transformation := []
  groupBy : List String := []
  orderBy : List String := []
  limit : Option Nat := none

namespace SchemaDraft

/-- What may be added to a draft; a single column is a list of one. -/
inductive Step where
  | description (text : String)
  | columns (columns : List Column)
  | transformations (transformations : List Transformation)
  | groupBy (entries : List String)
  | orderBy (entries : List String)
  | limit (rows : Nat)

/-- The draft after a step: lists grow, and a description or a limit takes the place of another. -/
def step (b : SchemaDraft) : Step → SchemaDraft
  | .description text => { b with description := some text }
  | .columns columns => { b with columns := b.columns ++ columns }
  | .transformations ts => { b with transformations := b.transformations ++ ts }
  | .groupBy entries => { b with groupBy := b.groupBy ++ entries }
  | .orderBy entries => { b with orderBy := b.orderBy ++ entries }
  | .limit rows => { b with limit := some rows }

/-- The draft that is made in some steps. -/
def make (name : String) (source : DatasetSource) (steps : List Step) : SchemaDraft :=
  steps.foldl step { name, source }

/-- What a check gives. -/
abbrev Check := Except SchemaError

/-- Checks that an expression can be read. -/
def checkExpression (column expression : String) : Check Unit :=
  let invalid (detail : Option String) : SchemaError := .invalidExpression column expression detail
  match Statement.parseExpr .generic expression with
  | .ok _ => .ok ()
  | .error (.trailing text) =>
    .error (invalid (some ("sql parser error: unexpected '" ++ text ++ "' after expression")))
  | .error _ => .error (invalid none)

/-- Checks a column, given those before it. -/
def checkColumn (schema : String) (earlier : List Column) (c : Column) : Check Unit := do
  if Text.isBlankText c.name then throw (.invalidSchema schema "column names must not be empty")
  if earlier.any (·.isNamed c.name) then throw (.duplicateColumn schema c.name)
  match c.expression with
  | some e => checkExpression c.name e
  | none => return ()

/-- Checks columns in order. -/
def checkColumns (schema : String) : List Column → List Column → Check Unit
  | _, [] => .ok ()
  | earlier, c :: rest => do
    checkColumn schema earlier c
    checkColumns schema (earlier ++ [c]) rest

/-- Checks an entry of the grouping, which may not be a column with an expression. -/
def checkGroup (schema : String) (columns : List Column) (entry : String) : Check Unit := do
  if Text.isBlankText entry then
    throw (.invalidSchema schema "group_by entries must not be empty")
  if columns.any (fun c => c.isNamed entry && c.expression.isSome) then
    throw (.invalidGroupBy schema entry)

/-- The columns that a transformation names. -/
def namedColumns (t : Transformation) : List String :=
  t.column.toList ++
    match t.rule with
    | .removeDuplicates columns => columns
    | _ => []

/-- Checks that the columns of a transformation are declared. -/
def checkTransformation (schema : String) (columns : List Column) (t : Transformation) :
    Check Unit :=
  match (namedColumns t).find? fun name => !columns.any (·.isNamed name) with
  | some missing => .error (.unknownColumn schema missing)
  | none => .ok ()

/-- Reads a sort key. -/
def readOrder (schema entry : String) : Check SortKey :=
  match SortKey.read? entry with
  | some o => .ok o
  | none =>
    .error (.invalidSchema schema
      ("order_by entry '" ++ entry ++ "' is not `column [ASC|DESC]`"))

/-- Checks the source and plans the joins of a view. -/
def checkSource (schema : String) (columns : List Column) : DatasetSource → Check (Option ViewPlan)
  | .file _ path =>
    if Text.isBlankText path then .error (.invalidSchema schema "file source needs a path")
    else .ok none
  | .relational _ connection table =>
    if Text.isBlankText table then
      .error (.invalidSchema schema "relational source needs a table")
    else if Text.isBlankText connection.host || Text.isBlankText connection.database then
      .error (.invalidSchema schema "connection needs a host and a database")
    else .ok none
  | .view links =>
    let tables := columns.filterMap fun c => c.qualifiedParts.map (·.1)
    match ViewPlan.ofLinks links tables with
    | .error message => .error (.invalidSchema schema message)
    | .ok plan =>
      match tables.find? fun t => !plan.contains t with
      | some stray =>
        .error (.invalidSchema schema
          ("view column table '" ++ stray ++ "' is not part of any relation"))
      | none => .ok (some plan)

/-- Checks a draft. -/
def build (b : SchemaDraft) : Check Schema := do
  let name := cleanName b.name
  if !isValidName name then
    throw (.invalidSchema b.name "name must start with a letter or underscore")
  if b.limit = some 0 then throw (.invalidSchema name "limit must be a positive integer")
  checkColumns name [] b.columns
  b.groupBy.forM (checkGroup name b.columns)
  if !b.columns.isEmpty then b.transformations.forM (checkTransformation name b.columns)
  let orderBy ← b.orderBy.mapM (readOrder name)
  let plan ← checkSource name b.columns b.source
  return {
    name, description := b.description, columns := b.columns, source := b.source,
    transformations := b.transformations, groupBy := b.groupBy, orderBy, limit := b.limit, plan }

end SchemaDraft

end DatasetSql
