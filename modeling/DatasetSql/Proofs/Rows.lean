import DatasetSql.Proofs.Parts
import DatasetSql.Statement.Parser.Statement
import Mathlib.Data.List.Dedup

/-!
# The rows of queries

What a query returns from a database whose tables have any rows. A query first gathers the rows of
its source and of the tables that are joined to it. With a grouping it returns one row for each
group; without one, a select list that calls an aggregate function returns one row, and any other
returns one row for each row that was gathered. Repeated rows may be dropped, and a page cut out.

Of the values of expressions nothing is assumed but that `COUNT(*)` is the number of rows of a group.
-/

namespace DatasetSql

open Emit

/-! ## Aggregates -/

namespace Statement

/-- Whether what follows the name of a function has a window. -/
def hasWindow (tail : List Part) : Bool :=
  tail.any fun
    | .words text => text == " OVER "
    | _ => false

mutual

/-- Whether an expression calls an aggregate function, other than over a window. The queries in it
aggregate rows of their own. -/
def Expr.aggregates (isAggregate : String → Bool) : Expr → Bool
  | .ident _ | .compound _ | .value _ | .subquery _ => false
  | .call name tail =>
    (name.getLast?.any (isAggregate ·.value) && !hasWindow tail) || phraseAggregates isAggregate tail
  | .binary left _ right => left.aggregates isAggregate || right.aggregates isAggregate
  | .form _ parts => phraseAggregates isAggregate parts

/-- Whether a part of a phrase calls an aggregate function. -/
def Part.aggregates (isAggregate : String → Bool) : Part → Bool
  | .words _ | .literal _ | .query _ | .source _ => false
  | .expr e => e.aggregates isAggregate
  | .late parts => phraseAggregates isAggregate parts

/-- Whether a phrase calls an aggregate function. -/
def phraseAggregates (isAggregate : String → Bool) : List Part → Bool
  | [] => false
  | p :: ps => p.aggregates isAggregate || phraseAggregates isAggregate ps

end

/-- Whether a text, read as an expression of a dialect, calls an aggregate function. -/
def textAggregates (d : Dialect) (isAggregate : String → Bool) (text : String) : Bool :=
  match parseExpr (.of (some d)) text with
  | .ok e => e.aggregates isAggregate
  | .error _ => false

end Statement

namespace Emit.Expr

/-- Whether an expression itself calls an aggregate function, or a text that is taken over does. -/
def aggregatesHere (d : Dialect) (isAggregate : String → Bool) : Expr → Bool
  | .function name _ => isAggregate name
  | .raw sql => Statement.textAggregates d isAggregate sql
  | _ => false

/-- Whether an expression calls an aggregate function, other than over all rows. -/
def aggregates (d : Dialect) (isAggregate : String → Bool) (e : Expr) : Bool :=
  e.parts.any (aggregatesHere d isAggregate)

end Emit.Expr

/-! ## Databases -/

/-- What queries are run on: the rows of tables and files, and what expressions mean on them. Rows
are of type `R`, and what stands in a column is of type `V`. -/
structure Database (R V : Type) where
  table : TableRef → List R
  /-- The rows that a table function gives. -/
  scan : String → List Expr → List R
  /-- The row of a derived table, with the values of its columns. -/
  derived : List V → R
  /-- The row that joins two others, if the condition holds of them. -/
  join : TableRef → Expr → R → R → Option R
  /-- The value that a row is grouped by. -/
  key : Expr → R → V
  /-- The values of an item for one of some groups; windows look at all of them. -/
  values : Expr → List (List R) → List R → List V
  sort : List (Expr × Option SortDirection) → List (List R) → List (List R)
  number : Nat → V
  isAggregate : String → Bool
  sort_perm : ∀ keys groups, (sort keys groups).Perm groups
  number_injective : Function.Injective number
  values_countStar : ∀ groups rows, values .countStar groups rows = [number rows.length]
  isAggregate_count : isAggregate "COUNT" = true
  /-- The functions of the rules look at one row. -/
  isAggregate_rules : ∀ name ∈ Rule.functions, isAggregate name = false

namespace Database

variable {R V : Type} [DecidableEq V] (db : Database R V) (d : Dialect)

/-- The rows after some joins. -/
def joined (joins : List (TableRef × Expr)) (rows : List R) : List R :=
  joins.foldl (fun rows j => rows.flatMap fun r => (db.table j.1).filterMap (db.join j.1 j.2 r)) rows

/-- The groups of rows that each give one row of the result. -/
def groups (select : List (Expr × Option String)) (keys : List Expr) (rows : List R) :
    List (List R) :=
  let keyOf (r : R) : List V := keys.map (db.key · r)
  if keys ≠ [] then (rows.map keyOf).dedup.map fun k => rows.filter (keyOf · = k)
  -- without a grouping all rows are one group, even if there are none
  else if select.any (·.1.aggregates d db.isAggregate) then [rows]
  else rows.map ([·])

/-- The rows of a `SELECT` without its page, given those it reads. -/
def selected (select : List (Expr × Option String)) (distinct : Bool) (keys : List Expr)
    (order : List (Expr × Option SortDirection)) (rows : List R) : List (List V) :=
  let groups := db.groups d select keys rows
  let out := (db.sort order groups).map fun g => select.flatMap fun item => db.values item.1 groups g
  if distinct then out.dedup else out

end Database

/-- The rows of a page: so many, after some that are left out. -/
def pageRows {α : Type} (page : Option (Option Nat × Option Nat)) (rows : List α) : List α :=
  match page with
  | none => rows
  | some (limit, offset) =>
    let rest := rows.drop (offset.getD 0)
    limit.elim rest rest.take

namespace Emit

variable {R V : Type} [DecidableEq V] (d : Dialect) (db : Database R V)

mutual

/-- The rows that a query returns. -/
def Query.rows : Query → List (List V)
  | .mk select distinct source joins groupBy orderBy page =>
    pageRows page (db.selected d select distinct groupBy orderBy
      (db.joined joins (sourceRows source)))

/-- The rows that a query reads; without a source there is one, which has no columns. -/
def sourceRows : Option TableExpr → List R
  | none => [db.derived []]
  | some t => t.rows

/-- The rows of a table expression. -/
def TableExpr.rows : TableExpr → List R
  | .table ref => db.table ref
  | .call name args _ => db.scan name args
  | .subquery query _ => query.rows.map db.derived

end

/-- The query without its page. -/
def Query.withoutPage : Query → Query
  | .mk select distinct source joins groupBy orderBy _ =>
    .mk select distinct source joins groupBy orderBy none

end Emit

/-! ## How many rows there are -/

namespace Database

variable {R V : Type} [DecidableEq V] (db : Database R V) (d : Dialect)
variable {select : List (Expr × Option String)} {keys : List Expr} {rows : List R}

/-- Sorting does not change the number of rows, not even where repeated rows are dropped. -/
theorem length_selected (distinct : Bool) (order order' : List (Expr × Option SortDirection)) :
    (db.selected d select distinct keys order rows).length =
      (db.selected d select distinct keys order' rows).length := by
  have hsort : (db.sort order (db.groups d select keys rows)).Perm
      (db.sort order' (db.groups d select keys rows)) :=
    (db.sort_perm order _).trans (db.sort_perm order' _).symm
  unfold selected
  cases distinct with
  | false => exact (hsort.map _).length_eq
  | true => exact ((hsort.map _).dedup).length_eq

/-- Without grouping and dropping, there is one row for an aggregate and else one for each row. -/
theorem length_selected_plain (order : List (Expr × Option SortDirection)) :
    (db.selected d select false [] order rows).length =
      if select.any (·.1.aggregates d db.isAggregate) then 1 else rows.length := by
  have hgroups : (db.selected d select false [] order rows).length =
      (db.groups d select [] rows).length := by
    rw [selected, if_neg Bool.false_ne_true, List.length_map, (db.sort_perm _ _).length_eq]
  rw [hgroups, groups, if_neg (fun h => h rfl)]
  split_ifs
  · rfl
  · exact List.length_map _

omit [DecidableEq V] in
/-- A count of all rows is an aggregate. -/
theorem aggregates_countStar : Expr.countStar.aggregates d db.isAggregate = true := by
  simp [Expr.countStar, Expr.aggregates, Expr.parts, Expr.aggregatesHere, db.isAggregate_count]

/-- A query that counts returns one number, that of the rows it reads. -/
theorem rows_count (t : TableExpr) (joins : List (TableRef × Expr)) :
    (Query.ofSource [(.countStar, none)] t joins).rows d db =
      [[db.number (db.joined joins (t.rows d db)).length]] := by
  rw [Query.ofSource, Query.rows, sourceRows]
  generalize db.joined joins (t.rows d db) = rows
  have hgroups : db.groups d [(.countStar, none)] [] rows = [rows] := by
    simp [groups, db.aggregates_countStar d]
  have hsort : db.sort [] [rows] = [rows] := List.perm_singleton.1 (db.sort_perm _ _)
  simp [pageRows, selected, hgroups, hsort, db.values_countStar]

end Database

end DatasetSql
