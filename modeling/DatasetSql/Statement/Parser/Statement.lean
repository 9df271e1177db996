import DatasetSql.Statement.Parser.Alteration
import DatasetSql.Statement.Parser.Definition
import DatasetSql.Statement.Parser.Maintenance
import DatasetSql.Statement.Parser.Session

/-!
# Reading statements

Statements are separated by semicolons, any number of them. Reading an expression alone tells
whether the text was no expression or whether something follows one.
-/

namespace DatasetSql.Statement

namespace Parser

/-- Reads a command that is closed by its name alone, after the verb. -/
def namedCommand (verb : String) : Parser Phrase := return verb ++ " " ++ (← ident)

/-- Reads the command that a verb opens, after the verb. -/
def command (g : Grammar) (r : Nested) (verb : String) : Parser Phrase :=
  match verb with
  | "INSERT" => insert g r
  | "REPLACE" => replace g r
  | "UPDATE" => update g r
  | "DELETE" => delete g r
  | "MERGE" => merge g r
  | "TRUNCATE" => truncate g r
  | "COPY" => do
    if ← onlyIf (g == .snowflake) (keyword "INTO") then copyInto g else copy g r
  | "UNLOAD" => unload g r
  | "CREATE" => if g == .snowflake then createAnyOrder g r else create g r
  | "ALTER" => alter g r
  | "DROP" => drop g r
  | "GRANT" => grant g
  | "REVOKE" => revoke g
  | "SET" => setCommand g r
  | "SHOW" => showCommand g r
  | "USE" => useCommand g
  | "START" => startCommand
  | "BEGIN" => beginCommand g
  | "COMMIT" | "END" => return "COMMIT" ++ (← chain)
  | "ROLLBACK" => rollback
  | "SAVEPOINT" => namedCommand verb
  | "RELEASE" => do
    let _ ← keyword "SAVEPOINT"
    namedCommand "RELEASE SAVEPOINT"
  | "DECLARE" => declare g r
  | "FETCH" => fetchCommand g
  | "CLOSE" => do if ← keyword "ALL" then return "CLOSE ALL" else namedCommand verb
  | "PREPARE" => prepare g r
  | "EXECUTE" | "EXEC" => execute g r
  | "DEALLOCATE" => deallocate
  | "EXPLAIN" | "DESCRIBE" | "DESC" => explain g r verb
  | "ANALYZE" => analyze g r
  | "CACHE" => cacheTable g r
  | "UNCACHE" => uncacheTable g
  | "MSCK" => repairTable g
  | "OPTIMIZE" => optimize g r
  | "COMMENT" => comment g
  | "KILL" => kill g
  | "FLUSH" => flush g
  | "DISCARD" => discard
  | "ATTACH" => attach g r
  | "DETACH" => detach g
  | "INSTALL" => if g == .duckdb || g == .generic then namedCommand verb else fail
  | "LOAD" =>
    if g == .duckdb || g == .generic || g == .postgres then namedCommand verb else fail
  | "PRAGMA" => pragma g
  | "LISTEN" => if g == .postgres then namedCommand verb else fail
  | "UNLISTEN" => if g == .postgres then unlisten else fail
  | "NOTIFY" => if g == .postgres then notify g else fail
  | "ASSERT" => assert r
  | "CALL" => callCommand g r
  | "LOCK" => do
    unless g == .mysql do fail
    expectKeyword "TABLES"
    lockTables g
  | "UNLOCK" => do
    unless g == .mysql do fail
    expectKeyword "TABLES"
    return "UNLOCK TABLES"
  | _ => fail

/-- Reads a statement of one level. -/
def statementLevel (g : Grammar) (r : Nested) : Parser Statement := do
  let queryNext := (← peekSymbol "(") || (← peekQuery) || (← peekKeyword "VALUES")
  if queryNext then return .query (← r.query)
  else
    match (← next).keyword? with
    | some verb => return .command (← command g r verb)
    | none => fail

/-- How deep expressions, queries and statements may be nested. -/
def maxDepth : Nat := 50

/-- The readers of a level that so many levels may be inside of. -/
def nested (g : Grammar) : Bool → Nat → Nested
  | prior, 0 =>
    { prior
      expr := fun _ => throw .tooDeep
      connected := throw .tooDeep
      query := throw .tooDeep
      statement := throw .tooDeep }
  | prior, depth + 1 =>
    let r := nested g prior depth
    { prior
      expr := exprLevel g r
      connected := fun ls => exprLevel g (nested g true depth) 0 ls
      query := queryLevel g r (insert g r) (update g r)
      statement := statementLevel g r }

end Parser

/-- Runs a reader on the lexemes of a text. -/
def runOn {α : Type} (g : Grammar) (text : String) (p : Parser α) : Except ParseError α :=
  match lex g text with
  | none => .error .invalid
  | some ls => (p ls).map (·.1)

/-- The statements of a text. A lone `END` after a statement ends the text. -/
def parseAll (g : Grammar) (text : String) : Except ParseError (List Statement) :=
  runOn g text do
    Parser.statementList (Parser.nested g false Parser.maxDepth).statement ((← get).length + 1) true

/-- The expression that a text is. -/
def parseExpr (g : Grammar) (text : String) : Except ParseError Expr :=
  runOn g text do
    let e ← (Parser.nested g false Parser.maxDepth).expr 0
    match ← Parser.peek with
    | none => return e
    | some l => throw (.trailing l.text)

end DatasetSql.Statement
