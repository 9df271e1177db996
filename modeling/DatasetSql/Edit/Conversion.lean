import DatasetSql.Edit.Error
import DatasetSql.Statement.Printer
import DatasetSql.Statement.Quoting

/-!
# Moving statements between dialects

Quoted identifiers take the delimiters of the target, functions its names and truth values its
spelling; a limit becomes a `FETCH` where there is no `LIMIT`. Parameter markers are out of the
parser's sight while a statement is converted.
-/

namespace DatasetSql

open Statement

namespace Conversion

/-- The parameter marker of the input. -/
def sourceMarker : String := "%s"

/-- The identifier that stands for a parameter while a statement is converted. -/
def inertMarker : String := "___PLACEHOLDER___"

/-- `SELECT NULL` as a sort key: an order that says nothing. -/
def nullOrder : Phrase :=
  let null : Select := .mk [] [(.value .null, none)] "" [] []
  [.expr (.subquery (.mk false [] (.select null) [] none none .none [] none none ""))]

/-- Renames a function and spells a truth value for a dialect. -/
def convertExpr (d : Dialect) : Expr → Expr
  | e@(.call [⟨name, none⟩] tail) =>
    match d.functionName? name with
    | some renamed => .call [⟨renamed, none⟩] tail
    | none => e
  | e@(.value (.boolean b)) =>
    if d.numericBooleans then .value (.number (if b then "1" else "0") false) else e
  | e => e

/-- Writes the page window of a query as a dialect without `LIMIT` does. -/
def convertQuery (d : Dialect) (q : Query) : Query :=
  if d.acceptsLimit then q
  else
  match q with
  | .mk recursive ctes body order limit offset unit detail fetch fetched closing =>
    let (fetch, fetched) := if limit.isSome then (some {}, limit) else (fetch, fetched)
    let unit := if offset.isSome then .rows else unit
    if (fetch.isSome || offset.isSome) && d.orderedOffset then
      let (offset, unit) := match offset with
        | some n => (some n, unit)
        | none => (some (.value (.number "0" false)), .rows)
      .mk recursive ctes body (if order.isEmpty then nullOrder else order) none offset unit detail
        fetch fetched closing
    else .mk recursive ctes body order none offset unit detail fetch fetched closing

/-- The pass that converts a statement. -/
def pass (d : Dialect) : Pass Id := { expr := convertExpr d, query := convertQuery d }

end Conversion

/-- A statement of one dialect as one of another. -/
def convertSql (sql : String) (target : Dialect) (source : Option Dialect) :
    Except EditError String := do
  let s ← readOne (Text.replaceAll Conversion.sourceMarker Conversion.inertMarker sql) source
  let converted := (requoteNames target s).pass (Conversion.pass target)
  return Text.replaceAll Conversion.inertMarker target.placeholder converted.text

end DatasetSql
