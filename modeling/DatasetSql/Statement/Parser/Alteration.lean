import DatasetSql.Statement.Parser.Access
import DatasetSql.Statement.Parser.Routine

/-!
# Reading alterations

`ALTER` and `DROP`, each after its keyword.
-/

namespace DatasetSql.Statement.Parser

/-! ## Columns -/

/-- Reads where a column stands in its table, if it is said. -/
def columnPosition (g : Grammar) : Parser Phrase := do
  unless g == .mysql || g == .generic do return []
  if ← keyword "FIRST" then return " FIRST"
  else if ← keyword "AFTER" then return " AFTER " ++ (← ident).value
  else return []

/-- Reads what is added to a table as a column. -/
def addColumn (g : Grammar) (r : Nested) (missing : Bool) : Parser Phrase := do
  let column ← flag ["COLUMN"]
  let conditional := g == .postgres || g == .bigquery || g == .duckdb || g == .generic
  let again ← onlyIf conditional (keywords ["IF", "NOT", "EXISTS"])
  let exists' := onlyText (conditional && (again || missing)) " IF NOT EXISTS"
  let definition ← columnDef g r
  return "ADD" ++ column ++ exists' ++ " " ++ definition ++ (← columnPosition g)

/-- Reads a partition, if there is one. -/
def partitionClause (g : Grammar) (r : Nested) : Parser (Option Phrase) := do
  if ← keyword "PARTITION" then return some (" PARTITION " ++ (← exprParens g r)) else return none

/-- Reads a projection after `ADD PROJECTION`. Its select list may be grouped and sorted. -/
def addProjection (g : Grammar) (r : Nested) : Parser Phrase := do
  let exists' : Phrase := onlyText (← keywords ["IF", "NOT", "EXISTS"]) " IF NOT EXISTS"
  let name ← ident
  expect "("
  expectKeyword "SELECT"
  let items ← returnedItems g r
  let groups ← groupBy g r
  let order ← queryOrder g r
  expect ")"
  return "ADD PROJECTION" ++ exists' ++ " " ++ name ++ " (SELECT " ++ items ++ groups ++
    afterText " ORDER BY " order ++ ")"

/-- Reads what is added to a table. -/
def addition (g : Grammar) (r : Nested) : Parser Phrase := do
  match ← optionalConstraint g r with
  | some c => return "ADD " ++ c
  | none =>
    if ← onlyIf (g == .generic) (keyword "PROJECTION") then addProjection g r
    else
      let missing ← keywords ["IF", "NOT", "EXISTS"]
      match ← many (partitionClause g r) with
      | [] => addColumn g r missing
      | partitions => return "ADD" ++ onlyText missing " IF NOT EXISTS" ++ partitions.flatten

/-- Reads a new name and what it is for. -/
def renameOperation (g : Grammar) : Parser Phrase := do
  if ← onlyIf (g == .postgres) (keyword "CONSTRAINT") then
    let old ← ident
    expectKeyword "TO"
    return "RENAME CONSTRAINT " ++ old ++ " TO " ++ (← ident)
  else if ← keyword "TO" then return "RENAME TO " ++ (← objectName g)
  else
    let _ ← keyword "COLUMN"
    let old ← ident
    expectKeyword "TO"
    return "RENAME COLUMN " ++ old ++ " TO " ++ (← ident)

/-- Reads the first of some sequences of keywords that comes next, with a name after it. -/
def namedSwitch (word : String) : List (List String) → Parser Phrase
  | [] => fail
  | ks :: rest => do
    match ← flag ks with
    | [] => namedSwitch word rest
    | words => return word ++ words ++ " " ++ (← ident)

/-- Reads what is switched on or off for a table. -/
def switchOperation (word : String) (kinds : List (List String)) : Parser Phrase := do
  if ← keywords ["ROW", "LEVEL", "SECURITY"] then return word ++ " ROW LEVEL SECURITY"
  else namedSwitch word kinds

/-- Reads an operation on a projection, after its words. -/
def projectionOperation (word : String) (placed : Bool) : Parser Phrase := do
  let exists' : Phrase := onlyText (← keywords ["IF", "EXISTS"]) " IF EXISTS"
  let name ← ident
  let place ← if placed then clause ["IN", "PARTITION"] do return (← ident) else pure []
  return word ++ " PROJECTION" ++ exists' ++ " " ++ name ++ place

/-- Reads what is dropped from a table. A word that only some grammars know is passed over in the
others. -/
def dropOperation (g : Grammar) (r : Nested) : Parser Phrase := do
  if ← keywords ["IF", "EXISTS", "PARTITION"] then
    return "DROP IF EXISTS PARTITION " ++ (← exprParens g r)
  if ← keyword "PARTITION" then return "DROP PARTITION " ++ (← exprParens g r)
  if ← keyword "CONSTRAINT" then
    let exists' ← ifExists
    let name ← ident
    return "DROP CONSTRAINT " ++ exists' ++ name ++ (← flag ["CASCADE"])
  let primary ← keywords ["PRIMARY", "KEY"]
  if primary && (g == .mysql || g == .generic) then return "DROP PRIMARY KEY"
  let projection ← keyword "PROJECTION"
  if projection && g == .generic then return (← projectionOperation "DROP" false)
  if ← keywords ["CLUSTERING", "KEY"] then return "DROP CLUSTERING KEY"
  let _ ← keyword "COLUMN"
  let exists' ← ifExists
  let name ← ident
  return "DROP COLUMN " ++ exists' ++ name ++ (← flag ["CASCADE"])

/-- Reads the new definition of a column after its name. -/
def columnChange (g : Grammar) (r : Nested) : Parser Phrase := do
  let type ← dataType g
  let options ← many (columnOption g r)
  return type ++ (options.map (afterText " ")).flatten ++ (← columnPosition g)

/-- Reads how a column is generated from now on. -/
def generatedColumn (g : Grammar) : Parser Phrase := do
  let kind ← firstFlag [["ALWAYS"], ["BY", "DEFAULT"]]
  expectKeywords ["AS", "IDENTITY"]
  let options : Phrase ←
    if ← symbol "(" then do
      let options ← sequenceOptions g
      expect ")"
      pure (" (" ++ options ++ " )" : Phrase)
    else pure []
  return "ADD GENERATED" ++ kind ++ " AS IDENTITY" ++ options

/-- Reads what changes about a column. -/
def columnOperation (g : Grammar) (r : Nested) : Parser Phrase := do
  let postgres := g == .postgres
  if ← keywords ["SET", "NOT", "NULL"] then return "SET NOT NULL"
  if ← keywords ["DROP", "NOT", "NULL"] then return "DROP NOT NULL"
  if ← keywords ["SET", "DEFAULT"] then return "SET DEFAULT " ++ (← anyExpr r)
  if ← keywords ["DROP", "DEFAULT"] then return "DROP DEFAULT"
  let typed ← keywords ["SET", "DATA", "TYPE"]
  let typed ← if typed then pure true else onlyIf postgres (keyword "TYPE")
  if typed then
    let type ← dataType g
    let conversion ← if postgres then exprClause "USING" r else pure []
    return "SET DATA TYPE " ++ type ++ conversion
  if ← keywords ["ADD", "GENERATED"] then return (← generatedColumn g)
  fail

/-! ## Tables -/

/-- Reads a part or a partition. -/
def partOrPartition (r : Nested) : Parser Phrase := do
  let k ← expectOneOf ["PART", "PARTITION"]
  return k ++ " " ++ (← anyExpr r)

/-- Reads an operation on a partition that only one grammar has; none if there is no such one. -/
def partitionOperation (r : Nested) : Parser (Option Phrase) := do
  match ← oneOf ["ATTACH", "DETACH", "FREEZE", "UNFREEZE"] with
  | none => return none
  | some k =>
    let partition ← partOrPartition r
    let name ←
      if k.endsWith "FREEZE" then clause ["WITH", "NAME"] do return (← ident) else pure []
    return some (k ++ " " ++ partition ++ name)

/-- Reads new names of partitions. -/
def renamePartitions (g : Grammar) (r : Nested) : Parser Phrase := do
  let old ← exprParens g r
  expectKeywords ["RENAME", "TO", "PARTITION"]
  return "PARTITION " ++ old ++ " RENAME TO PARTITION " ++ (← exprParens g r)

/-- Reads one of the less usual operations on a table. -/
def rareOperation (g : Grammar) (r : Nested) : Parser Phrase := do
  if ← onlyIf (g == .postgres || g == .generic) (keywords ["OWNER", "TO"]) then
    return "OWNER TO " ++ (← owner)
  if g == .generic then
    if let some phrase ← partitionOperation r then return phrase
  if ← keywords ["CLUSTER", "BY"] then return "CLUSTER BY " ++ (← exprParens g r)
  if ← keywords ["SUSPEND", "RECLUSTER"] then return "SUSPEND RECLUSTER"
  if ← keywords ["RESUME", "RECLUSTER"] then return "RESUME RECLUSTER"
  match ← optionsAfter g r ["SET", "TBLPROPERTIES"] "SET TBLPROPERTIES" with
  | [] => fail
  | phrase => return phrase

/-- Reads an operation on a table. -/
def tableOperation (g : Grammar) (r : Nested) : Parser Phrase := do
  if ← keyword "ADD" then return (← addition g r)
  if ← keyword "RENAME" then return (← renameOperation g)
  if ← keyword "DISABLE" then return (← switchOperation "DISABLE" [["RULE"], ["TRIGGER"]])
  if ← keyword "ENABLE" then
    return (← switchOperation "ENABLE" [["ALWAYS", "RULE"], ["ALWAYS", "TRIGGER"],
      ["REPLICA", "RULE"], ["REPLICA", "TRIGGER"], ["RULE"], ["TRIGGER"]])
  let cleared ← keywords ["CLEAR", "PROJECTION"]
  if cleared && g == .generic then return (← projectionOperation "CLEAR" true)
  let built ← keywords ["MATERIALIZE", "PROJECTION"]
  if built && g == .generic then return (← projectionOperation "MATERIALIZE" true)
  if ← keyword "DROP" then return (← dropOperation g r)
  if ← keyword "PARTITION" then return (← renamePartitions g r)
  if ← keyword "CHANGE" then
    let _ ← keyword "COLUMN"
    let old ← ident
    let new ← ident
    return "CHANGE COLUMN " ++ old ++ " " ++ new ++ " " ++ (← columnChange g r)
  if ← keyword "MODIFY" then
    let _ ← keyword "COLUMN"
    let name ← ident
    return "MODIFY COLUMN " ++ name ++ " " ++ (← columnChange g r)
  if ← keyword "ALTER" then
    let _ ← keyword "COLUMN"
    let name ← ident
    return "ALTER COLUMN " ++ name ++ " " ++ (← columnOperation g r)
  if ← keyword "SWAP" then
    expectKeyword "WITH"
    return "SWAP WITH " ++ (← objectName g)
  rareOperation g r

/-- Reads the new place of a table, if it is said. -/
def newLocation : Parser Phrase := do
  if ← keyword "LOCATION" then return " LOCATION " ++ (← ident)
  else clause ["SET", "LOCATION"] do return (← ident)

/-- Reads an `ALTER TABLE` after its keywords. -/
def alterTable (g : Grammar) (r : Nested) : Parser Phrase := do
  let exists' ← ifExists
  let only ← leading "ONLY"
  let name ← objectName g
  let cluster ← onCluster
  let operations ← list g (tableOperation g r)
  return "ALTER TABLE " ++ exists' ++ only ++ name ++ cluster ++ " " ++ operations ++
    (← newLocation)

/-- Reads an `ALTER VIEW` after its keywords. -/
def alterView (g : Grammar) (r : Nested) : Parser Phrase := do
  let name ← objectName g
  let columns ← optionalIdents g false
  let options ← optionsAfter g r ["WITH"] " WITH "
  expectKeyword "AS"
  return "ALTER VIEW " ++ name ++ columnsAfter columns ++ options ++ " AS " ++ (← r.query)

/-- Reads an `ALTER`. -/
def alter (g : Grammar) (r : Nested) : Parser Phrase := do
  match ← expectOneOf ["VIEW", "TABLE", "INDEX", "ROLE", "POLICY"] with
  | "VIEW" => alterView g r
  | "TABLE" => alterTable g r
  | "INDEX" =>
    let name ← objectName g
    expectKeywords ["RENAME", "TO"]
    return "ALTER INDEX " ++ name ++ " RENAME TO " ++ (← objectName g)
  | "ROLE" => alterRole g r
  | _ => alterPolicy g r

/-! ## DROP -/

/-- The kinds of things that can be dropped by name. -/
def droppable : List String :=
  ["TABLE", "VIEW", "INDEX", "ROLE", "SCHEMA", "DATABASE", "SEQUENCE", "STAGE", "TYPE"]

/-- Reads the names of what is dropped, after its kind. -/
def dropNamed (g : Grammar) (kind : Phrase) (isRole : Bool) : Parser Phrase := do
  let exists' ← ifExists
  let names ← namesPhrase g
  let cascade ← flag ["CASCADE"]
  let restrict ← flag ["RESTRICT"]
  let purge ← flag ["PURGE"]
  if !cascade.isEmpty && !restrict.isEmpty then fail
  let tail := cascade ++ restrict ++ purge
  if isRole && !tail.isEmpty then fail
  return "DROP " ++ kind ++ " " ++ exists' ++ names ++ tail

/-- Reads the routines that are dropped, after their kind. -/
def dropRoutine (g : Grammar) (r : Nested) (kind : String) : Parser Phrase := do
  let exists' ← ifExists
  let routines ← list g (functionDesc g r)
  return "DROP " ++ kind ++ " " ++ exists' ++ routines ++ (← dropBehavior)

/-- Reads a policy or trigger of a table that is dropped, after its kind. -/
def dropOnTable (g : Grammar) (kind : String) (name : Parser Phrase) : Parser Phrase := do
  let exists' ← ifExists
  let name ← name
  expectKeyword "ON"
  let table ← objectName g
  return "DROP " ++ kind ++ " " ++ exists' ++ name ++ " ON " ++ table ++ (← dropBehavior)

/-- Reads a secret that is dropped, after its keyword. -/
def dropSecret (words : Phrase) : Parser Phrase := do
  let exists' ← ifExists
  let name ← ident
  return "DROP " ++ words ++ "SECRET " ++ exists' ++ name ++
    (← clause ["FROM"] do return (← ident))

/-- Reads a `DROP`. -/
def drop (g : Grammar) (r : Nested) : Parser Phrase := do
  let lenient := g == .mysql || g == .generic || g == .duckdb
  let temporary ← if lenient then leading "TEMPORARY" else pure []
  let persistent ← if g == .duckdb then leading "PERSISTENT" else pure []
  match ← expectOneOf (droppable ++ ["FUNCTION", "POLICY", "PROCEDURE", "SECRET", "TRIGGER"]) with
  | "FUNCTION" => dropRoutine g r "FUNCTION"
  | "PROCEDURE" => dropRoutine g r "PROCEDURE"
  | "POLICY" => dropOnTable g "POLICY" do return (← ident)
  | "TRIGGER" =>
    if g == .postgres || g == .generic then dropOnTable g "TRIGGER" do return (← objectName g)
    else fail
  | "SECRET" =>
    if !temporary.isEmpty && !persistent.isEmpty then fail
    dropSecret (temporary ++ persistent)
  | kind => dropNamed g (temporary ++ kind) (kind == "ROLE")

end DatasetSql.Statement.Parser
