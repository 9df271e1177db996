import DatasetSql.Statement.Parser.Statement

/-!
# Reading statements to edit

Edits work on the statements of a caller's text. They fail if the text cannot be read or does not
hold exactly one statement.
-/

namespace DatasetSql

/-- Why an edit fails. -/
inductive EditError where
  /-- The text cannot be read. -/
  | parse (sql : String)
  /-- A mapping entry has no use; the reason is left out if its value cannot be read. -/
  | invalidMapping (key value : String) (reason : Option String)
  | noStatement
  | manyStatements (count : Nat)
deriving DecidableEq, Repr

namespace EditError

/-- What is said about an error, without the words of the parser. -/
def message : EditError → String
  | .parse sql => "Failed to parse SQL: \n" ++ sql
  | .invalidMapping key value reason =>
    "Invalid table mapping '" ++ key ++ "' => '" ++ value ++ "': " ++ reason.getD "Failed to parse SQL"
  | .noStatement => "SQL text contains no statement"
  | .manyStatements n => "Expected a single statement, found " ++ toString n

end EditError

/-- Every statement of a text. -/
def readAll (sql : String) (d : Option Dialect) : Except EditError (List Statement) :=
  match Statement.parseAll (.of d) sql with
  | .ok statements => .ok statements
  | .error _ => .error (.parse sql)

/-- The only statement of a text. -/
def readOne (sql : String) (d : Option Dialect) : Except EditError Statement := do
  match ← readAll sql d with
  | [] => throw .noStatement
  | [s] => return s
  | ss => throw (.manyStatements ss.length)

end DatasetSql
