import DatasetSql.Edit.Error
import DatasetSql.Statement.Collect

/-!
# The tables that statements read

A table is known by the last part of its name. Names that a common table expression binds anywhere
are left out, as are calls of table functions. A table is listed once for each alias it has.
-/

namespace DatasetSql

open Statement

/-- The names that the common table expressions of a query bind. -/
def Statement.Query.bound : Query → List String
  | .mk _ ctes _ _ _ _ _ _ _ _ _ => ctes.map fun (.mk asName _ _ _) => asName.name.value

/-- The name and alias of a table that is no call. -/
def Statement.Relation.tableKey? : Relation → Option (String × Option String)
  | .table name false _ asName _ => name.getLast?.map fun i => (i.value, asName.map (·.name.value))
  | _ => none

/-- The names that common table expressions bind in a statement. -/
def Statement.boundNames (s : Statement) : List String := s.collect { query := Query.bound }

/-- The names and aliases of the tables in a statement. -/
def Statement.tableKeys (s : Statement) : List (String × Option String) :=
  s.collect { relation := fun r => r.tableKey?.toList }

/-- The tables that statements read, in the order of first sight. -/
def tablesOf (statements : List Statement) : List String :=
  let bound := statements.flatMap Statement.boundNames
  let keys := (statements.flatMap Statement.tableKeys).filter fun k => !bound.contains k.1
  (Text.firstOccurrences keys).map (·.1)

/-- The tables that the statements of a text read. -/
def tableNames (sql : String) (d : Option Dialect) : Except EditError (List String) :=
  return tablesOf (← readAll sql d)

end DatasetSql
