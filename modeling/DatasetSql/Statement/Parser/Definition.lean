import DatasetSql.Statement.Parser.Access
import DatasetSql.Statement.Parser.Routine
import DatasetSql.Statement.Parser.Stage

/-!
# Reading definitions

`CREATE` with all that can be created: views, indexes and smaller things here, tables, routines and
stages by their own readers.
-/

namespace DatasetSql.Statement.Parser

/-! ## Views -/

/-- Reads a column of a view with its description. -/
def viewColumn (g : Grammar) (r : Nested) : Parser Phrase := do
  let name ← ident
  let options := (g == .bigquery || g == .generic) && (← peekKeyword "OPTIONS")
  let comment := (g == .snowflake || g == .generic) && (← peekKeyword "COMMENT")
  if options || comment then
    match ← columnOption g r with
    | some o => return name ++ " " ++ o
    | none => return name
  else return name

/-- Reads the columns of a view, if there are any. -/
def viewColumns (g : Grammar) (r : Nested) : Parser Phrase := do
  unless ← symbol "(" do return []
  if ← symbol ")" then return []
  let columns ← list g (viewColumn g r)
  expect ")"
  return " (" ++ columns ++ ")"

/-- Reads the columns that a view is clustered by, if they are said. -/
def viewCluster (g : Grammar) : Parser Phrase := do
  unless ← keyword "CLUSTER" do return []
  expectKeyword "BY"
  match ← optionalIdents g false with
  | [] => return []
  | columns => return " CLUSTER BY " ++ columnsText columns

/-- Reads a comment on a view, if there is one. -/
def viewComment (g : Grammar) : Parser Phrase := do
  unless ← onlyIf (g == .snowflake || g == .generic) (keyword "COMMENT") do return []
  expect "="
  return " COMMENT = " ++ quoted '\'' (← singleQuoted)

/-- Reads a `CREATE VIEW` up to and from its keyword, given whether it replaces a view and whether
it is temporary. The last options that are given are the ones that count. -/
def createView (g : Grammar) (r : Nested) (replaced temporary : Phrase) : Parser Phrase := do
  let materialized ← leading "MATERIALIZED"
  expectKeyword "VIEW"
  let generic := g == .generic
  let exists' ← if g == .bigquery || generic then ifNotExists else pure []
  let name ← tableName g
  let columns ← viewColumns g r
  let options ← optionsAfter g r ["WITH"] " WITH "
  let cluster ← viewCluster g
  let described ← if g == .bigquery || generic then optionsAfter g r ["OPTIONS"] " OPTIONS" else pure []
  let target ← if generic then clause ["TO"] do return (← objectName g) else pure []
  let comment ← viewComment g
  expectKeyword "AS"
  let q ← r.query
  let unbound ←
    if g == .redshift || generic then flag ["WITH", "NO", "SCHEMA", "BINDING"] else pure []
  let options := if described.isEmpty then options else []
  return "CREATE " ++ replaced ++ materialized ++ temporary ++ "VIEW " ++ exists' ++ name ++
    target ++ columns ++ options ++ comment ++ cluster ++ described ++ " AS " ++ q ++ unbound

/-! ## Indexes -/

/-- Reads the name of an index up to `ON`; it may be left out. -/
def createdIndexName (g : Grammar) (required : Bool) : Parser Phrase := do
  if ← onlyIf (!required) (keyword "ON") then return []
  let name ← objectName g
  expectKeyword "ON"
  return name ++ " "

/-- Reads a `CREATE INDEX` after its keywords. -/
def createIndex (g : Grammar) (r : Nested) (unique : Phrase) : Parser Phrase := do
  let concurrently ← leading "CONCURRENTLY"
  let exists' ← ifNotExists
  let name ← createdIndexName g (!exists'.isEmpty)
  let table ← objectName g
  let method : Phrase ←
    if ← keyword "USING" then do pure (" USING " ++ (← ident) ++ " " : Phrase) else pure []
  let keys ← parenthesized (separated (trailingCommas g) (sortKey g r))
  let included : Phrase ←
    if ← keyword "INCLUDE" then do
      let columns ← identList g
      pure (" INCLUDE (" ++ Text.joined "," (columns.map Ident.text) ++ ")" : Phrase)
    else pure []
  let nulls ← nullsDistinct
  let options ←
    if g == .postgres || g == .generic then clause ["WITH"] (exprParens g r) else pure []
  return "CREATE " ++ unique ++ "INDEX " ++ concurrently ++ exists' ++ name ++ "ON " ++ table ++
    method ++ "(" ++ between "," keys ++ ")" ++ included ++ nulls ++ options ++
    (← exprClause "WHERE" r)

/-! ## Smaller things -/

/-- Reads a `CREATE SCHEMA` after its keywords. -/
def createSchema (g : Grammar) : Parser Phrase := do
  let exists' ← ifNotExists
  if ← keyword "AUTHORIZATION" then
    return "CREATE SCHEMA " ++ exists' ++ "AUTHORIZATION " ++ (← ident)
  let name ← objectName g
  return "CREATE SCHEMA " ++ exists' ++ name ++ (← clause ["AUTHORIZATION"] do return (← ident))

/-- Reads where a database lies. -/
def databasePlaces (g : Grammar) : Nat → Phrase → Phrase → Parser Phrase
  | 0, _, _ => fail
  | fuel + 1, location, managed => do
    if ← keyword "LOCATION" then
      let place ← plainString g
      databasePlaces g fuel (" LOCATION " ++ place) managed
    else if ← keyword "MANAGEDLOCATION" then
      let place ← plainString g
      databasePlaces g fuel location (" MANAGEDLOCATION " ++ place)
    else return location ++ managed

/-- Reads a `CREATE DATABASE` after its keywords. -/
def createDatabase (g : Grammar) : Parser Phrase := do
  let exists' ← ifNotExists
  let name ← objectName g
  return "CREATE DATABASE " ++ exists' ++ name ++
    (← databasePlaces g ((← get).length + 1) [] [])

/-- Reads a `CREATE SEQUENCE` after its keywords. -/
def createSequence (g : Grammar) (temporary : Phrase) : Parser Phrase := do
  let exists' ← ifNotExists
  let name ← objectName g
  let type ← clause ["AS"] do return (← dataType g)
  let options ← sequenceOptions g
  let owned ← clause ["OWNED", "BY"] do
    if ← keyword "NONE" then return "NONE" else return (← objectName g)
  return "CREATE " ++ temporary ++ "SEQUENCE " ++ exists' ++ name ++ type ++ options ++ owned

/-- Reads the attributes of a type after the opening parenthesis, at most so many. -/
def typeAttributes (g : Grammar) : Nat → Parser (List Phrase)
  | 0 => fail
  | fuel + 1 => do
    unless (← peek) matches some (.word _ _) do fail
    let name ← typedName g
    let collate ← collation g
    let comma ← symbol ","
    if ← symbol ")" then return [name ++ collate]
    unless comma do fail
    return (name ++ collate) :: (← typeAttributes g fuel)

/-- Reads a `CREATE TYPE` after its keywords. -/
def createType (g : Grammar) : Parser Phrase := do
  let name ← objectName g
  expectKeyword "AS"
  let opening : Phrase := "CREATE TYPE " ++ name ++ " AS "
  if ← onlyIf (g == .postgres) (keyword "ENUM") then
    expect "("
    let labels ← separatedOrNone (trailingCommas g) ident ")"
    expect ")"
    return opening ++ "ENUM " ++ columnsText labels
  else if ← symbol "(" then
    if ← symbol ")" then return opening ++ "()"
    return opening ++ "(" ++ commas (← typeAttributes g ((← get).length + 1)) ++ ")"
  else return opening ++ "()"

/-- Reads a `CREATE EXTENSION` after its keywords. -/
def createExtension : Parser Phrase := do
  let exists' ← ifNotExists
  let name ← ident
  let opening : Phrase := "CREATE EXTENSION " ++ exists' ++ name
  unless ← keyword "WITH" do return opening
  let schema ← clause ["SCHEMA"] do return (← ident)
  let version ← clause ["VERSION"] do return (← ident)
  return opening ++ afterText " WITH" (schema ++ version ++ (← flag ["CASCADE"]))

/-- Reads a `CREATE VIRTUAL TABLE` after `VIRTUAL`. -/
def createVirtualTable (g : Grammar) : Parser Phrase := do
  expectKeyword "TABLE"
  let exists' ← ifNotExists
  let name ← objectName g
  expectKeyword "USING"
  let module' ← ident
  return "CREATE VIRTUAL TABLE " ++ exists' ++ name ++ " USING " ++ module' ++
    columnsAfter (← optionalIdents g false)

/-- Reads a secret's name and the place it is kept in, each if it is said. -/
def secretName : Parser Phrase := do
  if ← peekSymbol "(" then return []
  let place : Parser Phrase := do
    match ← maybe ident with
    | some i => return "IN " ++ i ++ " "
    | none => return []
  if ← keyword "IN" then place
  else
    match ← maybe ident with
    | some name =>
      let place ← if ← keyword "IN" then place else pure []
      return name ++ " " ++ place
    | none => return []

/-- Reads a `CREATE SECRET` after its keyword. -/
def createSecret (g : Grammar) (opening : Phrase) : Parser Phrase := do
  let exists' ← ifNotExists
  let name ← secretName
  expect "("
  expectKeyword "TYPE"
  let type ← ident
  let options : Phrase ←
    if ← symbol "," then do
      let options ← list g do
        let key ← ident
        return key ++ " " ++ (← ident)
      pure (", " ++ options : Phrase)
    else pure []
  expect ")"
  return opening ++ "SECRET " ++ exists' ++ name ++ "( TYPE " ++ type ++ options ++ " )"

/-! ## CREATE -/

/-- Reads a `CREATE` after its keyword. Only some things can replace others of their name. -/
def create (g : Grammar) (r : Nested) : Parser Phrase := do
  let replaced : Phrase := onlyText (← keywords ["OR", "REPLACE"]) "OR REPLACE "
  let altered : Phrase := onlyText (← keywords ["OR", "ALTER"]) "OR ALTER "
  let localWord ← keyword "LOCAL"
  let globalWord ← keyword "GLOBAL"
  let scope := if globalWord then "GLOBAL " else if localWord then "LOCAL " else ""
  let transient ← leading "TRANSIENT"
  let isTemporary := (← oneOf ["TEMP", "TEMPORARY"]).isSome
  let temporary : Phrase := onlyText isTemporary "TEMPORARY "
  let persistent : Phrase :=
    onlyText (← onlyIf (g == .duckdb) (keyword "PERSISTENT")) "PERSISTENT "
  if ← keyword "TABLE" then
    createTable g r ("CREATE " ++ replaced ++ scope ++ temporary ++ transient)
  else if (← peekKeyword "MATERIALIZED") || (← peekKeyword "VIEW") then
    createView g r replaced temporary
  else if ← keyword "POLICY" then createPolicy g r
  else if ← keyword "EXTERNAL" then createExternalTable g r ("CREATE " ++ replaced)
  else if ← keyword "FUNCTION" then createFunction g r ("CREATE " ++ replaced ++ temporary)
  else if ← keyword "TRIGGER" then createTrigger g r ("CREATE " ++ replaced)
  else if ← keywords ["CONSTRAINT", "TRIGGER"] then
    createTrigger g r ("CREATE " ++ replaced ++ "CONSTRAINT ")
  else if ← keyword "MACRO" then createMacro g r ("CREATE " ++ replaced ++ temporary)
  else if ← keyword "SECRET" then
    if isTemporary && !persistent.isEmpty then fail
    createSecret g ("CREATE " ++ replaced ++ temporary ++ persistent)
  else if !replaced.isEmpty then fail
  else if ← keyword "EXTENSION" then createExtension
  else if ← keyword "INDEX" then createIndex g r []
  else if ← keywords ["UNIQUE", "INDEX"] then createIndex g r "UNIQUE "
  else if ← keyword "VIRTUAL" then createVirtualTable g
  else if ← keyword "SCHEMA" then createSchema g
  else if ← keyword "DATABASE" then createDatabase g
  else if ← keyword "ROLE" then createRole g
  else if ← keyword "SEQUENCE" then createSequence g temporary
  else if ← keyword "TYPE" then createType g
  else if ← keyword "PROCEDURE" then createProcedure g r altered
  else fail

/-- Reads a `CREATE` of the grammar whose clauses may come in any order. Words that only a table or
a stage can have are refused before anything else. -/
def createAnyOrder (g : Grammar) (r : Nested) : Parser Phrase := do
  let start ← get
  let o ← opening
  if ← keyword "STAGE" then createStage g o
  else if ← keyword "TABLE" then
    createTableAnyOrder g r ("CREATE " ++ o.replaced ++ o.scope ++ o.temporary ++ o.kind)
  else if o.scope.isEmpty && o.kind.isEmpty then
    set start
    create g r
  else fail

end DatasetSql.Statement.Parser
