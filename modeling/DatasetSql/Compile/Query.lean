import DatasetSql.Compile.Check
import DatasetSql.Compile.Path
import DatasetSql.Schema.Basic
import DatasetSql.Statement.Shape
import DatasetSql.Transform.Pipeline

/-!
# Compiling schemas

A schema compiles to three statements: the full query, a preview of its first rows, and a count of
its rows. Each is built as a tree, written, and checked.
-/

namespace DatasetSql

open Emit

/-- What to compile for. -/
structure CompileOptions where
  /-- The dialect; the source's own one if not given. -/
  dialect : Option Dialect := none
  /-- The directory that relative paths of files start from. -/
  datasetRoot : String := "."
  /-- How many rows a preview has. -/
  headRows : Nat := 5
deriving DecidableEq, Repr

/-- The dialect that a schema is compiled for. -/
def CompileOptions.dialectFor (o : CompileOptions) (s : Schema) : Dialect :=
  o.dialect.getD s.source.dialect

namespace Schema

/-! ## Sources -/

/-- What a query reads from: a table expression and what is joined to it. -/
abbrev FromClause := TableExpr × List (TableRef × Expr)

/-- A column of a table, both names folded. -/
def qualified (d : Dialect) (table column : String) : Expr :=
  .column (some (d.foldIdentifier table)) (d.foldIdentifier column)

/-- A table of a database; its name may carry a schema, as may the connection. -/
def relationalTable (d : Dialect) (c : Connection) (table : String) : TableRef :=
  match Text.splitOnce '.' table with
  | some (qualifier, name) => ⟨some (d.foldIdentifier qualifier), d.foldIdentifier name⟩
  | none => ⟨c.schema.map d.foldIdentifier, d.foldIdentifier table⟩

/-- A join of a view. -/
def joinClause (d : Dialect) (step : JoinStep) : TableRef × Expr :=
  (⟨none, d.foldIdentifier step.table⟩,
    .binary (qualified d step.left.1 step.left.2) .eq (qualified d step.right.1 step.right.2))

/-- What a schema reads from. Only some dialects can read a file. -/
def fromClause (d : Dialect) (root : String) (s : Schema) : Except CompileError FromClause :=
  match s.source with
  | .file format path =>
    if !d.scansFiles then .error (.unsupportedFormat s.name format.name d)
    else
      match resolvePath? root path with
      | some absolute => .ok (.call format.scanFunction [.str absolute] none, [])
      | none => .error (.invalidPath path)
  | .relational _ connection table => .ok (.table (relationalTable d connection table), [])
  | .view _ =>
    match s.plan with
    | some plan =>
      .ok (.table ⟨none, d.foldIdentifier plan.base⟩, plan.joins.map (joinClause d))
    | none => .error (.schema (.invalidSchema s.name "view has no join plan"))

/-! ## Columns -/

/-- The expression of a column, written again; parentheses make it an operand. -/
def columnExpression (c : Column) (expression : String) : Except CompileError Expr :=
  match Statement.parseExpr .generic expression with
  | .ok e => .ok (if e.isAtomic then .raw e.text else .paren (.raw e.text))
  | .error (.trailing text) =>
    .error (.schema (.invalidExpression c.name expression
      (some ("sql parser error: unexpected '" ++ text ++ "' after expression"))))
  | .error _ => .error (.schema (.invalidExpression c.name expression none))

/-- The expression of a column before its transformations, and its alias. Names that the user chose
keep their case; names that follow from columns are folded like them. -/
def columnStart (d : Dialect) (isView : Bool) (c : Column) :
    Except CompileError (Expr × Option String) :=
  match c.expression, c.qualifiedParts with
  | some expression, _ => do
    let e ← columnExpression c expression
    return (e, some (c.asName.getD (d.foldIdentifier c.name)))
  | none, some (table, name) =>
    if isView then
      .ok (qualified d table name,
        some (c.asName.getD (d.foldIdentifier (table ++ "_" ++ name))))
    else .ok (.col (d.foldIdentifier c.name), c.asName)
  | none, none => .ok (.col (d.foldIdentifier c.name), c.asName)

/-- An item of the select list. -/
def selectItem (d : Dialect) (s : Schema) (c : Column) :
    Except CompileError (Expr × Option String) := do
  let (e, asName) ← columnStart d s.source.isView c
  let out := applyTransformations d s.transformations c.name asName e
  return (out.expr, out.asName)

/-- The select list; without columns everything is selected. -/
def selectList (d : Dialect) (s : Schema) : Except CompileError (List (Expr × Option String)) := do
  let items ← s.columns.mapM (selectItem d s)
  return if items.isEmpty then [(.star none, none)] else items

/-- A column that is grouped or sorted by; in views it may be named with its table. -/
def reference (d : Dialect) (s : Schema) (name : String) : Expr :=
  match Text.splitOnce '.' name with
  | some (table, column) =>
    if s.source.isView then qualified d table column else .col (d.foldIdentifier name)
  | none => .col (d.foldIdentifier name)

/-- A column that is grouped by. -/
def groupItem (d : Dialect) (s : Schema) (name : String) : Except CompileError Expr :=
  if (s.column? name).any (·.expression.isSome) then .error (.invalidGroupBy s.name name)
  else .ok (reference d s name)

/-! ## Queries -/

/-- The select list over the source, grouped. -/
def baseQuery (d : Dialect) (root : String) (s : Schema) : Except CompileError Query := do
  let (table, joins) ← fromClause d root s
  let items ← selectList d s
  let groups ← s.groupBy.mapM (groupItem d s)
  return .mk items s.distinct (some table) joins groups [] none

/-- The query of all rows, sorted and capped. -/
def fullQuery (d : Dialect) (root : String) (s : Schema) : Except CompileError Query := do
  let q := (← baseQuery d root s).withOrder
    (s.orderBy.map fun o => (reference d s o.column, o.direction))
  return match s.limit with
    | some n => q.withLimit n
    | none => q

/-- The query of the first rows, in no order. -/
def headQuery (d : Dialect) (root : String) (rows : Nat) (s : Schema) :
    Except CompileError Query := do
  return (← baseQuery d root s).withLimit rows

/-- The query that counts rows: those of the source, unless grouping or dropping repeated rows
changes their number. -/
def countQuery (d : Dialect) (root : String) (s : Schema) : Except CompileError Query := do
  if !s.groupBy.isEmpty || s.distinct then
    let base ← baseQuery d root s
    return .ofSource [(.countStar, none)] (.subquery base (d.foldIdentifier s.name)) []
  else
    let (table, joins) ← fromClause d root s
    return .ofSource [(.countStar, none)] table joins

/-- Writes and checks a query. -/
def finish (d : Dialect) (s : Schema) (q : Query) : Except CompileError String :=
  match q.sql d with
  | .ok sql => checkGenerated sql d s.name
  | .error error => .error (.unwritable error)

/-- The statement of all rows. -/
def compile (s : Schema) (o : CompileOptions) : Except CompileError String := do
  let d := o.dialectFor s
  finish d s (← fullQuery d o.datasetRoot s)

/-- The statement of the first rows. -/
def compileHead (s : Schema) (o : CompileOptions) (rows : Option Nat) :
    Except CompileError String := do
  let d := o.dialectFor s
  finish d s (← headQuery d o.datasetRoot (rows.getD o.headRows) s)

/-- The statement that counts rows. -/
def compileCount (s : Schema) (o : CompileOptions) : Except CompileError String := do
  let d := o.dialectFor s
  finish d s (← countQuery d o.datasetRoot s)

end Schema

end DatasetSql
