import DatasetSql.Edit.Tables
import DatasetSql.Statement.Printer
import DatasetSql.Statement.Quoting
import DatasetSql.Statement.Shape

/-!
# Table mappings

A mapping says what logical table names stand for: a physical table, a call of a table function or a
whole query. Substituting leaves each replacement under the name that was there before, so column
references keep their meaning. A replacement is not searched for further names, which is why a query
may not read another name of the same mapping.
-/

namespace DatasetSql

open Statement

/-- What a logical table name stands for. -/
inductive MappingTarget where
  /-- A table or a call of a table function. -/
  | relation (r : Relation)
  /-- A whole query, as a derived table. -/
  | subquery (r : Relation)

/-- The relation that is put in place of the name. -/
def MappingTarget.factor : MappingTarget → Relation
  | .relation r | .subquery r => r

/-- Logical table names and what they stand for. -/
structure TableMapping where
  entries : List (String × MappingTarget) := []

namespace TableMapping

/-- Marks the end of a target while it is read. -/
def targetAlias : String := "__quarry_target"

/-- The alias of a table or derived table. -/
def aliasOf : Relation → Option TableAlias
  | .table _ _ _ asName _ | .derived _ _ asName => asName
  | _ => none

/-- The single relation of a text, if it carries the mark of a target. -/
def markedRelation? (sql : String) (d : Option Dialect) : Option Relation :=
  match parseAll (.of d) sql with
  | .ok [s] => s.singleRelation?.filter fun r => (aliasOf r).any (·.name.value == targetAlias)
  | _ => none

/-- What a mapping value stands for: what follows `FROM` in a query, or a query of its own. The mark
stands on a line of its own, out of the reach of a comment. An error without reason says that the
value cannot be read. -/
def readTarget (value : String) (d : Option Dialect) : Except (Option String) MappingTarget :=
  let unusable := "value is neither a table nor a query"
  if value.isEmpty then throw (some "mapping value is empty")
  else
  match markedRelation? ("SELECT * FROM " ++ value ++ "\nAS " ++ targetAlias) d with
  | some r@(.table ..) => return .relation r
  | _ =>
    match parseAll (.of d) value with
    | .error _ => throw none
    | .ok [.query _] =>
      match markedRelation? ("SELECT * FROM (" ++ value ++ "\n) AS " ++ targetAlias) d with
      | some r@(.derived ..) => return .subquery r
      | _ => throw (some unusable)
    | .ok [_] => throw (some unusable)
    | .ok ss => throw (some ("expected one statement, found " ++ toString ss.length))

/-- The tables that a target reads through a query. -/
def targetReads : MappingTarget → List String
  | .subquery (.derived _ q _) => tablesOf [.query q]
  | _ => []

/-- Reads one entry, given the keys before it and all keys. -/
def readEntry (d : Option Dialect) (earlier keys : List String) (key value : String) :
    Except EditError MappingTarget := do
  let invalid (reason : Option String) : EditError := .invalidMapping key value reason
  if key.isEmpty then throw (invalid (some "mapping key is empty"))
  if earlier.contains key then throw (invalid (some "duplicate mapping key"))
  let target ← (readTarget value d).mapError invalid
  match (targetReads target).find? fun t => t != key && keys.contains t with
  | some other =>
    throw (invalid (some
      ("query reads mapped table '" ++ other ++ "'; nested substitution is not supported")))
  | none => return target

/-- Reads entries in order. -/
def readEntries (d : Option Dialect) (keys : List String) :
    List String → List (String × String) → Except EditError (List (String × MappingTarget))
  | _, [] => return []
  | earlier, (key, value) :: rest => do
    let target ← readEntry d earlier keys key value
    return (key, target) :: (← readEntries d keys (earlier ++ [key]) rest)

/-- The mapping with the given keys and values, the values read in a dialect. -/
def read (entries : List (String × String)) (d : Option Dialect) :
    Except EditError TableMapping := do
  let entries := entries.map fun (key, value) => (key, Text.trim value)
  return ⟨← readEntries d (entries.map (·.1)) [] entries⟩

/-- What a name stands for. -/
def get? (m : TableMapping) (name : String) : Option MappingTarget := m.entries.lookup name

/-- Gives a table or derived table an alias. -/
def setAlias (a : TableAlias) : Relation → Relation
  | .table name isCall detail _ tail => .table name isCall detail (some a) tail
  | .derived lateral q _ => .derived lateral q (some a)
  | r => r

/-- What takes the place of a relation that names a key: the key's target, under the alias of the
relation or called by its name. -/
def replacement? (m : TableMapping) : Relation → Option Relation
  | .table name false _ asName _ =>
    match name.getLast? with
    | some last =>
      (m.get? last.value).map fun target =>
        setAlias (asName.getD ⟨⟨last.value, none⟩, []⟩) target.factor
    | none => none
  | _ => none

/-- Replaces a relation that names a key, and counts it. -/
def replace (m : TableMapping) (r : Relation) : StateM Nat Relation := do
  match m.replacement? r with
  | some target => modify (· + 1); return target
  | none => return r

/-- Replaces every table that is named by a key, and counts them. -/
def substitute (m : TableMapping) (s : Statement) : Statement × Nat :=
  (s.passM { relation := m.replace }).run 0

end TableMapping

/-- A statement with its tables replaced and its identifiers quoted for a dialect. -/
def replaceTables (sql : String) (m : TableMapping) (d : Dialect) : Except EditError String := do
  return (quoteNames d (m.substitute (← readOne sql (some d))).1).text

end DatasetSql
