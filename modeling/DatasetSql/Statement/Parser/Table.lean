import DatasetSql.Statement.Parser.Change
import DatasetSql.Statement.Parser.Column

/-!
# Reading new tables

`CREATE TABLE` in its two forms: with clauses in a fixed order, and with clauses in any order. Either
way the clauses are written in one order.
-/

namespace DatasetSql.Statement.Parser

/-! ## Storage -/

/-- Reads a delimiter after some keywords; none if they do not come next. -/
def rowDelimiter (words : String) (ks : List String) : Parser (Option Phrase) := do
  if ← keywords ks then return some (words ++ " " ++ Text.joined " " ks ++ " " ++ (← ident))
  else return none

/-- Reads the delimiters of one kind; none if there are no more. -/
def rowDelimiters : Parser (Option Phrase) := do
  match ← oneOf ["FIELDS", "COLLECTION", "MAP", "LINES", "NULL"] with
  | some "FIELDS" =>
    match ← rowDelimiter " FIELDS" ["TERMINATED", "BY"] with
    | some phrase =>
      match ← rowDelimiter "" ["ESCAPED", "BY"] with
      | some escape => return some (phrase ++ escape)
      | none => return some phrase
    | none => return none
  | some "COLLECTION" => rowDelimiter " COLLECTION" ["ITEMS", "TERMINATED", "BY"]
  | some "MAP" => rowDelimiter " MAP" ["KEYS", "TERMINATED", "BY"]
  | some "LINES" => rowDelimiter " LINES" ["TERMINATED", "BY"]
  | some _ => rowDelimiter " NULL" ["DEFINED", "AS"]
  | none => return none

/-- Reads the format of rows after `ROW`. -/
def rowFormat (g : Grammar) : Parser Phrase := do
  expectKeyword "FORMAT"
  if ← keyword "SERDE" then return " ROW FORMAT SERDE " ++ (← plainString g)
  else
    let _ ← keyword "DELIMITED"
    return " ROW FORMAT DELIMITED" ++ (← many rowDelimiters).flatten

/-- How the rows of a table are stored. -/
structure Storage where
  row : Phrase := []
  /-- The formats of reading and writing. -/
  formats : Phrase := []
  /-- The format of files. -/
  file : Phrase := []
  properties : Phrase := []
  location : Phrase := []

/-- The clauses that say how rows are stored. -/
def Storage.phrase (s : Storage) : Phrase :=
  s.row ++ s.formats ++ s.file ++ s.properties ++ s.location

/-- Reads how rows are stored, in any order. -/
def storageFrom (g : Grammar) (r : Nested) : Nat → Storage → Parser Storage
  | 0, _ => fail
  | fuel + 1, s => do
    if ← keyword "ROW" then storageFrom g r fuel { s with row := ← rowFormat g }
    else if ← keyword "STORED" then
      expectKeyword "AS"
      if ← keyword "INPUTFORMAT" then
        let input ← anyExpr r
        expectKeyword "OUTPUTFORMAT"
        let output ← anyExpr r
        let formats : Phrase :=
          " STORED AS INPUTFORMAT " ++ input ++ " OUTPUTFORMAT " ++ output
        storageFrom g r fuel { s with formats, file := [] }
      else
        let format ← expectOneOf fileFormats
        storageFrom g r fuel { s with formats := [], file := " STORED AS " ++ format }
    else if ← keyword "LOCATION" then
      let location ← plainString g
      storageFrom g r fuel { s with location := " LOCATION " ++ location }
    else
    match ← optionsAfter g r ["WITH", "SERDEPROPERTIES"] " WITH SERDEPROPERTIES " with
    | [] => return s
    | properties => storageFrom g r fuel { s with properties }

/-- Reads how rows are stored. -/
def storage (g : Grammar) (r : Nested) : Parser Storage := do
  storageFrom g r ((← get).length + 1) {}

/-- Reads the columns that a table is partitioned by, if they are said. -/
def partitionedBy (g : Grammar) (r : Nested) : Parser Phrase :=
  clause ["PARTITIONED", "BY"] (inParens (list g (columnDef g r)))

/-- Reads how rows are put into buckets, if it is said. -/
def clusteredBy (g : Grammar) (r : Nested) : Parser Phrase := do
  unless ← keywords ["CLUSTERED", "BY"] do return []
  let columns ← identList g
  let sorted ← clause ["SORTED", "BY"] (inParens (sortKeys g r))
  expectKeyword "INTO"
  let count ← numberValue g
  expectKeyword "BUCKETS"
  return " CLUSTERED BY " ++ columnsText columns ++ sorted ++ " INTO " ++ count ++ " BUCKETS"

/-! ## Other clauses -/

/-- Reads the word that a setting is set to. -/
def wordValue : Parser String := do
  expect "="
  match ← next with
  | .word i _ => return i.value
  | _ => fail

/-- Reads the engine of a table, if it is said. -/
def engine (g : Grammar) : Parser Phrase := do
  unless ← keyword "ENGINE" do return []
  let name ← wordValue
  let parameters : Phrase ←
    if ← peekSymbol "(" then do pure (columnsText (← identList g) : Phrase) else pure []
  return " ENGINE=" ++ name ++ parameters

/-- Reads the first number of a numbered column, if it is said. -/
def firstNumber : Parser Phrase := do
  unless ← keyword "AUTO_INCREMENT" do return []
  let _ ← symbol "="
  let n ← natural
  if n < 4294967296 then return " AUTO_INCREMENT " ++ toString n else fail

/-- Reads the order of the rows of a table, if it is said. -/
def tableOrder (g : Grammar) (r : Nested) : Parser Phrase :=
  clause ["ORDER", "BY"] do
    if ← peekSymbol "(" then
      inParens do if ← peekSymbol ")" then return [] else exprListPhrase g r
    else exprPhrase r

/-- Reads a setting and the word it is set to, if some keywords come next. -/
def wordSetting (ks : List String) : Parser Phrase := do
  if ← keywords ks then return " " ++ Text.joined " " ks ++ "=" ++ (← wordValue) else return []

/-- Reads what happens to the rows of a table at the end of a transaction. -/
def commitAction : Parser Phrase := do
  match ← firstFlag [["DELETE", "ROWS"], ["PRESERVE", "ROWS"], ["DROP"]] with
  | [] => fail
  | phrase => return " ON COMMIT" ++ phrase

/-- Reads a comment, if there is one. -/
def inlineComment : Parser Phrase := do
  unless ← keyword "COMMENT" do return []
  let sign := if ← symbol "=" then " = " else " "
  return " COMMENT" ++ sign ++ plainQuoted (← singleQuoted)

/-- Reads a name; if there is none, nothing is said about it. -/
def nameAfter (words : String) (name : Parser ObjectName) : Parser Phrase := do
  match ← maybe name with
  | some n => return words ++ n
  | none => return []

/-- The definitions of a table between parentheses. An empty table without a source of columns has
empty ones. -/
def definitionList (columns constraints : List Phrase) (hasSource : Bool) : Phrase :=
  if columns.isEmpty && constraints.isEmpty then onlyText (!hasSource) " ()"
  else " (" ++ commas (columns ++ constraints) ++ ")"

/-! ## CREATE TABLE -/

/-- Reads the query that fills a table, if there is one. -/
def tableQuery (g : Grammar) (r : Nested) : Parser Phrase := do
  let as ← keyword "AS"
  if as || (g == .mysql && (← peekKeyword "SELECT")) then return " AS " ++ (← r.query)
  else return []

/-- Reads a `CREATE TABLE` with clauses in a fixed order, given its opening words. -/
def createTable (g : Grammar) (r : Nested) (opening : Phrase) : Parser Phrase := do
  let generic := g == .generic
  let exists' ← ifNotExists
  let name ← tableName g
  let cluster ← onCluster
  let like ←
    if (← oneOf ["LIKE", "ILIKE"]).isSome then nameAfter " LIKE " (tableName g) else pure []
  let clone ← if ← keyword "CLONE" then nameAfter " CLONE " (tableName g) else pure []
  let (columns, constraints) ← definitions g r
  let rowId ← flag ["WITHOUT", "ROWID"]
  let partitioned ← partitionedBy g r
  let clustered ← clusteredBy g r
  let storage ← storage g r
  let options ← optionsAfter g r ["WITH"] " WITH "
  let properties ← optionsAfter g r ["TBLPROPERTIES"] " TBLPROPERTIES "
  let engine ← engine g
  let increment ← firstNumber
  let primary ← if generic then clause ["PRIMARY", "KEY"] (exprPhrase r) else pure []
  let order ← tableOrder g r
  let partition ←
    if g == .bigquery || g == .postgres || generic then clause ["PARTITION", "BY"] (exprPhrase r)
    else pure []
  let clusterBy ←
    if g == .bigquery || generic then clause ["CLUSTER", "BY"] (identsPhrase g) else pure []
  let described ← if g == .bigquery || generic then optionsClause g r else pure none
  let charset ← wordSetting ["DEFAULT", "CHARSET"]
  let collate ← wordSetting ["COLLATE"]
  let onCommit ← if ← keywords ["ON", "COMMIT"] then commitAction else pure []
  let strict ← flag ["STRICT"]
  let comment ← inlineComment
  let q ← tableQuery g r
  let hasSource := !(like.isEmpty && clone.isEmpty && q.isEmpty)
  return opening ++ "TABLE " ++ exists' ++ name ++ cluster ++
    definitionList columns constraints hasSource ++ rowId ++ like ++ clone ++ partitioned ++
    clustered ++ storage.phrase ++ properties ++ options ++ engine ++ comment ++ increment ++
    primary ++ order ++ partition ++ clusterBy ++ afterText " " (described.getD []) ++ charset ++
    collate ++ onCommit ++ strict ++ q

/-- Reads a `CREATE EXTERNAL TABLE` after `EXTERNAL`. Its place must be said. -/
def createExternalTable (g : Grammar) (r : Nested) (opening : Phrase) : Parser Phrase := do
  expectKeyword "TABLE"
  let exists' ← ifNotExists
  let name ← objectName g
  let (columns, constraints) ← definitions g r
  let partitioned ← partitionedBy g r
  let storage ← storage g r
  let properties ← optionsAfter g r ["TBLPROPERTIES"] " TBLPROPERTIES "
  if storage.location.isEmpty then fail
  return opening ++ "EXTERNAL TABLE " ++ exists' ++ name ++
    definitionList columns constraints false ++ partitioned ++ storage.row ++ storage.formats ++
    storage.properties ++ storage.file ++ storage.location ++ properties

/-! ## Clauses in any order -/

/-- The clauses of a table that may come in any order. -/
structure TableClauses where
  columns : List Phrase := []
  constraints : List Phrase := []
  like : Phrase := []
  clone : Phrase := []
  comment : Phrase := []
  clusterBy : Phrase := []
  grants : Phrase := []
  evolution : Phrase := []
  tracking : Phrase := []
  retention : Phrase := []
  extension : Phrase := []
  collation : Phrase := []
  aggregation : Phrase := []
  access : Phrase := []
  tags : Phrase := []
  onCommit : Phrase := []
  query : Phrase := []

/-- The clauses of a table in the order of writing. -/
def TableClauses.phrase (c : TableClauses) : Phrase :=
  definitionList c.columns c.constraints (!(c.like.isEmpty && c.clone.isEmpty && c.query.isEmpty)) ++
    c.like ++ c.clone ++ c.comment ++ c.clusterBy ++ c.grants ++ c.evolution ++ c.tracking ++
    c.retention ++ c.extension ++ c.collation ++ c.aggregation ++ c.access ++ c.tags ++
    c.onCommit ++ c.query

/-- Reads the truth value that a setting is set to. -/
def switchSetting (k : String) : Parser Phrase := do
  expect "="
  return " " ++ k ++ "=" ++ (← expectOneOf ["TRUE", "FALSE"])

/-- Reads the number that a setting is set to. -/
def countSetting (k : String) : Parser Phrase := do
  expect "="
  return " " ++ k ++ "=" ++ toString (← natural)

/-- Reads a policy on the rows of a table, after `ROW`. -/
def rowPolicy (g : Grammar) : Parser Phrase := do
  expectKeywords ["ACCESS", "POLICY"]
  let policy ← objectName g
  expectKeyword "ON"
  return " WITH ROW ACCESS POLICY " ++ policy ++ " ON " ++ columnsText (← identList g)

/-- Reads a clause of a table that a keyword opens, after the keyword. The flag says that nothing
may follow it. -/
def tableClause (g : Grammar) (r : Nested) (c : TableClauses) (k : String) :
    Parser (TableClauses × Bool) := do
  match k with
  | "COPY" => expectKeyword "GRANTS"; return ({ c with grants := " COPY GRANTS" }, false)
  | "COMMENT" =>
    modify (bareWord "COMMENT" :: ·)
    return ({ c with comment := ← inlineComment }, false)
  | "AS" => return ({ c with query := " AS " ++ (← r.query) }, true)
  | "CLONE" => return ({ c with clone := ← nameAfter " CLONE " (objectName g) }, true)
  | "LIKE" => return ({ c with like := ← nameAfter " LIKE " (objectName g) }, true)
  | "CLUSTER" =>
    expectKeyword "BY"
    return ({ c with clusterBy := " CLUSTER BY " ++ columnsText (← identList g) }, false)
  | "ENABLE_SCHEMA_EVOLUTION" => return ({ c with evolution := ← switchSetting k }, false)
  | "CHANGE_TRACKING" => return ({ c with tracking := ← switchSetting k }, false)
  | "DATA_RETENTION_TIME_IN_DAYS" => return ({ c with retention := ← countSetting k }, false)
  | "MAX_DATA_EXTENSION_TIME_IN_DAYS" => return ({ c with extension := ← countSetting k }, false)
  | "DEFAULT_DDL_COLLATION" =>
    expect "="
    return ({ c with collation := " DEFAULT_DDL_COLLATION=" ++ (← plainString g) }, false)
  | "WITH" =>
    let named ← ["AGGREGATION", "TAG", "ROW"].anyM fun word => peekKeyword word
    if named then return (c, false) else fail
  | "AGGREGATION" =>
    expectKeyword "POLICY"
    return ({ c with aggregation := " WITH AGGREGATION POLICY " ++ (← objectName g) }, false)
  | "ROW" => return ({ c with access := ← rowPolicy g }, false)
  | "TAG" => return ({ c with tags := " WITH TAG " ++ (← inParens (list g (tag g))) }, false)
  | "ON" =>
    expectKeyword "COMMIT"
    return ({ c with onCommit := ← commitAction }, false)
  | _ => fail

/-- Reads the clauses of a table in any order. A table that nothing fills must have columns. -/
def tableClausesFrom (g : Grammar) (r : Nested) : Nat → TableClauses → Parser TableClauses
  | 0, _ => fail
  | fuel + 1, c => do
    match ← peek with
    | none => if c.columns.isEmpty then fail else return c
    | some (.symbol ";") => if c.columns.isEmpty then fail else return c
    | some (.symbol "(") =>
      let (columns, constraints) ← definitions g r
      tableClausesFrom g r fuel { c with columns, constraints }
    | some l =>
      match l.keyword? with
      | some k =>
        skip
        let (c, last) ← tableClause g r c k
        if last then return c else tableClausesFrom g r fuel c
      | none => fail

/-- Reads a `CREATE TABLE` with clauses in any order, given its opening words. -/
def createTableAnyOrder (g : Grammar) (r : Nested) (opening : Phrase) : Parser Phrase := do
  let exists' ← ifNotExists
  let name ← objectName g
  let clauses ← tableClausesFrom g r ((← get).length + 1) {}
  return opening ++ "TABLE " ++ exists' ++ name ++ clauses.phrase

end DatasetSql.Statement.Parser
