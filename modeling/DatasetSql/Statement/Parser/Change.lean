import DatasetSql.Statement.Parser.Setting

/-!
# Reading commands that change rows

`INSERT`, `UPDATE`, `DELETE`, `MERGE` and their relatives, each after its keyword.
-/

namespace DatasetSql.Statement.Parser

/-! ## Assignments -/

/-- Reads an assignment to a column or to several columns. -/
def assignment (g : Grammar) (r : Nested) : Parser Phrase := do
  let target : Phrase ←
    if ← peekSymbol "(" then inParens (namesPhrase g) else do pure ((← objectName g) : Phrase)
  expect "="
  return target ++ " = " ++ (← anyExpr r)

/-- Reads assignments between commas. -/
def assignments (g : Grammar) (r : Nested) : Parser Phrase := list g (assignment g r)

/-- Reads what happens on a conflict, if it is said before the name of a table. -/
def conflictWords : Parser Phrase := do
  for k in ["REPLACE", "ROLLBACK", "ABORT", "FAIL", "IGNORE"] do
    if ← keywords ["OR", k] then return ("OR " ++ k ++ " " : String)
  if ← keyword "REPLACE" then return "OR REPLACE " else return []

/-! ## INSERT -/

/-- The formats that files are stored in. -/
def fileFormats : List String :=
  ["AVRO", "JSONFILE", "ORC", "PARQUET", "RCFILE", "SEQUENCEFILE", "TEXTFILE"]

/-- Reads rows that go to a directory, after its keyword. -/
def insertDirectory (g : Grammar) (r : Nested) (words : Phrase) : Parser Phrase := do
  let path ← plainString g
  let format ← clause ["STORED", "AS"] do return (← expectOneOf fileFormats)
  return "INSERT" ++ words ++ " DIRECTORY " ++ path ++ format ++ " " ++ (← r.query)

/-- Reads the partition that rows go to, if it is said. -/
def insertPartition (g : Grammar) (r : Nested) : Parser Phrase := do
  if ← keyword "PARTITION" then return "PARTITION " ++ (← exprParens g r) ++ " " else return []

/-- Reads the columns, the partition and the rows of an `INSERT`. The rows are seen before the
partition. -/
def insertRows (g : Grammar) (r : Nested) : Parser Phrase := do
  if ← keywords ["DEFAULT", "VALUES"] then return "DEFAULT VALUES"
  if ← peekNestedQuery then queryPhrase r
  else
    let columns ← optionalIdents g (g == .mysql)
    let columns : Phrase := if columns.isEmpty then [] else columnsText columns ++ " "
    let partition ← insertPartition g r
    return columns ++ seenLate partition ++ (← r.query)

/-- Reads the name of the new rows, if it is said. -/
def insertAlias (g : Grammar) : Parser Phrase := do
  if ← onlyIf (g == .mysql || g == .generic) (keyword "AS") then
    let name ← objectName g
    return " AS " ++ name ++ columnsAfter (← optionalIdents g false)
  else return []

/-- Reads which rows conflict, if it is said. -/
def conflictTarget (g : Grammar) : Parser Phrase := do
  if ← keywords ["ON", "CONSTRAINT"] then return " ON CONSTRAINT " ++ (← objectName g)
  else if ← peekSymbol "(" then return columnsText (← identList g)
  else return []

/-- Reads what happens to rows that conflict, if it is said. -/
def onConflict (g : Grammar) (r : Nested) : Parser Phrase := do
  unless ← keyword "ON" do return []
  if ← keyword "CONFLICT" then
    let target ← conflictTarget g
    expectKeyword "DO"
    if ← keyword "NOTHING" then return " ON CONFLICT" ++ target ++ " DO NOTHING"
    expectKeywords ["UPDATE", "SET"]
    let changes ← assignments g r
    let filter ← exprClause "WHERE" r
    return " ON CONFLICT" ++ target ++ " DO UPDATE SET " ++ changes ++ filter
  else
    expectKeywords ["DUPLICATE", "KEY", "UPDATE"]
    return " ON DUPLICATE KEY UPDATE " ++ (← assignments g r)

/-- Reads an `INSERT`, or what is like one, after its verb. With words on conflicts all other words
are left out. -/
def insertAfter (g : Grammar) (r : Nested) (verb : String) : Parser Phrase := do
  let conflict ← conflictWords
  let lenient := g == .mysql || g == .generic
  let priority ←
    if lenient then choice ["LOW_PRIORITY", "DELAYED", "HIGH_PRIORITY"] else pure []
  let ignore ← if lenient then flag ["IGNORE"] else pure []
  let overwrite ← flag ["OVERWRITE"]
  let into ← flag ["INTO"]
  let localWord ← flag ["LOCAL"]
  if ← keyword "DIRECTORY" then return (← insertDirectory g r (overwrite ++ localWord))
  let table ← flag ["TABLE"]
  let name ← objectName g
  let asName ← if g == .postgres then clause ["AS"] do return (← ident) else pure []
  let rows ← insertRows g r
  let rowAlias ← insertAlias g
  let onConflict ← onConflict g r
  let returned ← returning g r
  let opening : Phrase :=
    if conflict.isEmpty then verb ++ priority ++ ignore ++ overwrite ++ into ++ table ++ " "
    else "INSERT " ++ conflict ++ "INTO "
  return opening ++ name ++ asName ++ " " ++ rows ++ rowAlias ++ seenLate onConflict ++
    seenLate returned

/-- Reads an `INSERT`. -/
def insert (g : Grammar) (r : Nested) : Parser Phrase := insertAfter g r "INSERT"

/-- Reads a `REPLACE`. -/
def replace (g : Grammar) (r : Nested) : Parser Phrase := do
  if g == .mysql || g == .generic then insertAfter g r "REPLACE" else fail

/-! ## UPDATE and DELETE -/

/-- Reads an `UPDATE`. In one grammar nothing may follow a `FROM`. -/
def update (g : Grammar) (r : Nested) : Parser Phrase := do
  let conflict ← conflictWords
  let target ← source g r
  expectKeyword "SET"
  let changes ← assignments g r
  let other : Phrase ←
    if ← keyword "FROM" then
      if g == .mysql then pure [] else do pure (" FROM " ++ (← source g r) : Phrase)
    else pure []
  let filter ← exprClause "WHERE" r
  return "UPDATE " ++ conflict ++ target ++ " SET " ++ changes ++ other ++ filter ++
    (← returning g r)

/-- Reads what a `DELETE` deletes from, if the tables stand before it. -/
def deleteTables (g : Grammar) : Parser Phrase := do
  if ← keyword "FROM" then return "FROM "
  else if g == .bigquery || g == .generic then return []
  else
    let names ← namesPhrase g
    expectKeyword "FROM"
    return names ++ " FROM "

/-- Reads a `DELETE`. -/
def delete (g : Grammar) (r : Nested) : Parser Phrase := do
  let opening ← deleteTables g
  let relations ← sourceList g r
  let others ← clause ["USING"] (sourceList g r)
  let filter ← exprClause "WHERE" r
  let returned ← returning g r
  let order ← orderClause g r
  return "DELETE " ++ opening ++ relations ++ others ++ filter ++ returned ++ order ++
    (← limitClause r)

/-! ## MERGE -/

/-- Reads what is inserted by a `MERGE`. -/
def mergeInsert (g : Grammar) (r : Nested) : Parser Phrase := do
  let columns ← optionalIdents g (g == .mysql)
  let columns : Phrase := if columns.isEmpty then [] else columnsText columns ++ " "
  if ← onlyIf (g == .bigquery || g == .generic) (keyword "ROW") then
    return "INSERT " ++ columns ++ "ROW"
  else
    expectKeyword "VALUES"
    return "INSERT " ++ columns ++ (← valuesPhrase g r (g == .mysql))

/-- Reads what a `MERGE` does with rows; only rows that the target lacks are inserted, and they can
only be inserted. -/
def mergeAction (g : Grammar) (r : Nested) (lacking : Bool) : Parser Phrase := do
  match ← expectOneOf ["UPDATE", "INSERT", "DELETE"] with
  | "INSERT" => if lacking then mergeInsert g r else fail
  | k =>
    if lacking then fail
    else if k == "DELETE" then return "DELETE"
    else
      expectKeyword "SET"
      return "UPDATE SET " ++ (← assignments g r)

/-- Reads a clause of a `MERGE`, unless the statement ends. -/
def mergeClause (g : Grammar) (r : Nested) : Parser (Option Phrase) := do
  let ends ← atEnd
  if ends || (← peekSymbol ";") then return none
  expectKeyword "WHEN"
  let negated ← keyword "NOT"
  expectKeyword "MATCHED"
  let bySource ← onlyIf negated (keywords ["BY", "SOURCE"])
  let byTarget ← onlyIf (negated && !bySource) (keywords ["BY", "TARGET"])
  let condition ← exprClause "AND" r
  expectKeyword "THEN"
  let action ← mergeAction g r (negated && !bySource)
  return some ("WHEN " ++ (if negated then "NOT MATCHED" else "MATCHED") ++
    (if bySource then " BY SOURCE" else if byTarget then " BY TARGET" else "") ++ condition ++
    " THEN " ++ action)

/-- Reads a `MERGE`. -/
def merge (g : Grammar) (r : Nested) : Parser Phrase := do
  let into ← flag ["INTO"]
  let target ← relation g r
  expectKeyword "USING"
  let other ← relation g r
  expectKeyword "ON"
  let condition ← anyExpr r
  return "MERGE" ++ into ++ " " ++ target ++ " USING " ++ other ++ " ON " ++ condition ++ " " ++
    between " " (← many (mergeClause g r))

/-! ## Whole tables -/

/-- Reads a `TRUNCATE`. -/
def truncate (g : Grammar) (r : Nested) : Parser Phrase := do
  let table ← leading "TABLE"
  let only ← leading "ONLY"
  let names ← namesPhrase g
  let partition ← clause ["PARTITION"] (exprParens g r)
  let detailed := g == .postgres || g == .generic
  let identity ←
    if detailed then firstFlag [["RESTART", "IDENTITY"], ["CONTINUE", "IDENTITY"]] else pure []
  let cascade ← if detailed then dropBehavior else pure []
  return "TRUNCATE " ++ table ++ only ++ names ++ identity ++ cascade ++ partition ++
    (← onCluster)

/-! ## COPY -/

/-- Reads a keyword with a truth value that is true unless it is said to be false. -/
def copySwitch (k : String) : Parser Phrase := do
  if (← oneOf ["TRUE", "FALSE"]) == some "FALSE" then return (k ++ " FALSE" : String)
  else return k

/-- Reads an option of a `COPY`. -/
def copyOption (g : Grammar) : Parser Phrase := do
  match ← expectOneOf ["FORMAT", "FREEZE", "DELIMITER", "NULL", "HEADER", "QUOTE", "ESCAPE",
    "FORCE_QUOTE", "FORCE_NOT_NULL", "FORCE_NULL", "ENCODING"] with
  | "FORMAT" => return "FORMAT " ++ (← ident)
  | "FREEZE" => copySwitch "FREEZE"
  | "HEADER" => copySwitch "HEADER"
  | "NULL" => return "NULL " ++ (← quotedString g)
  | "ENCODING" => return "ENCODING " ++ (← quotedString g)
  | k =>
    if k.startsWith "FORCE" then return k ++ " " ++ columnsText (← identList g)
    else return k ++ " " ++ plainQuoted (← literalChar g)

/-- Reads an option of a `COPY` of separated values in the old form. -/
def copyCsvOption (g : Grammar) : Parser Phrase := do
  match ← expectOneOf ["HEADER", "QUOTE", "ESCAPE", "FORCE"] with
  | "HEADER" => return "HEADER"
  | "FORCE" =>
    if ← keywords ["NOT", "NULL"] then return "FORCE NOT NULL " ++ (← identsPhrase g)
    else
      expectKeyword "QUOTE"
      return "FORCE QUOTE " ++ (← identsPhrase g)
  | k =>
    let _ ← keyword "AS"
    return k ++ " " ++ plainQuoted (← literalChar g)

/-- Reads an option of a `COPY` in the old form. -/
def copyOldOption (g : Grammar) : Parser Phrase := do
  match ← expectOneOf ["BINARY", "DELIMITER", "NULL", "CSV"] with
  | "BINARY" => return "BINARY"
  | "DELIMITER" =>
    let _ ← keyword "AS"
    return "DELIMITER " ++ plainQuoted (← literalChar g)
  | "NULL" =>
    let _ ← keyword "AS"
    return "NULL " ++ (← quotedString g)
  | _ => return "CSV " ++ between " " (← many (maybe (copyCsvOption g)))

/-- Reads where a `COPY` reads from or writes to; tells whether rows follow the statement. -/
def copyTarget (g : Grammar) : Parser (Phrase × Bool) := do
  if ← keyword "STDIN" then return ("STDIN", true)
  else if ← keyword "STDOUT" then return ("STDOUT", false)
  else if ← keyword "PROGRAM" then return ("PROGRAM " ++ (← quotedString g), false)
  else return (← quotedString g, false)

/-- Reads a `COPY`. A query can only be copied somewhere. Rows that follow the statement take up the
rest of the text and are left out. -/
def copy (g : Grammar) (r : Nested) : Parser Phrase := do
  let isQuery ← peekSymbol "("
  let subject : Phrase ←
    if isQuery then inParens (queryPhrase r)
    else do
      let name ← objectName g
      pure (name ++ columnsAfter (← optionalIdents g false) : Phrase)
  let direction ← expectOneOf ["FROM", "TO"]
  if isQuery && direction == "FROM" then fail
  let (target, rowsFollow) ← copyTarget g
  let _ ← keyword "WITH"
  let options : Phrase ←
    if ← peekSymbol "(" then do pure (" " ++ (← inParens (list g (copyOption g))) : Phrase)
    else pure []
  let oldOptions ← many (maybe (copyOldOption g))
  if rowsFollow then
    expect ";"
    set ([] : List Lexeme)
  return "COPY " ++ subject ++ " " ++ direction ++ " " ++ target ++ options ++
    (oldOptions.map (afterText " ")).flatten

/-- Reads an `UNLOAD`. -/
def unload (g : Grammar) (r : Nested) : Parser Phrase := do
  let q ← inParens (queryPhrase r)
  expectKeyword "TO"
  let target ← ident
  return "UNLOAD" ++ q ++ " TO " ++ target ++ (← optionsAfter g r ["WITH"] " WITH ")

end DatasetSql.Statement.Parser
