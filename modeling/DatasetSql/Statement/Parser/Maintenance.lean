import DatasetSql.Statement.Parser.Setting

/-!
# Reading commands about a database

Commands that look at tables or look after them: explanations, statistics, caches, locks,
extensions and the like, each after its keyword.
-/

namespace DatasetSql.Statement.Parser

/-! ## Explanations -/

/-- Reads an option of an explanation. -/
def explainOption (r : Nested) : Parser Phrase := do
  let name ← ident
  let comma ← peekSymbol ","
  if comma || (← peekSymbol ")") then return name else return name ++ " " ++ (← anyExpr r)

/-- Reads how a statement is explained. -/
def explainWords (g : Grammar) (r : Nested) (verb : String) : Parser Phrase := do
  let detailed := verb == "EXPLAIN" && (g == .postgres || g == .duckdb || g == .generic)
  if detailed && (← peekSymbol "(") then return (← inParens (list g (explainOption r))) ++ " "
  else if ← keywords ["QUERY", "PLAN"] then return "QUERY PLAN "
  else
    let analyze ← leading "ANALYZE"
    let verbose ← leading "VERBOSE"
    let format : Phrase ←
      if ← keyword "FORMAT" then do
        pure ("FORMAT " ++ (← expectOneOf ["TEXT", "GRAPHVIZ", "JSON"]) ++ " " : Phrase)
      else pure []
    return analyze ++ verbose ++ format

/-- Reads an `EXPLAIN`, `DESCRIBE` or `DESC`. What is no statement is the name of a table; an
explanation is not explained. -/
def explain (g : Grammar) (r : Nested) (verb : String) : Parser Phrase := do
  let words ← explainWords g r verb
  let explained := ((← peek).bind Lexeme.keyword?).any ["EXPLAIN", "DESCRIBE", "DESC"].contains
  match ← maybe r.statement with
  | some s => if explained then fail else return verb ++ " " ++ words ++ statementPhrase s
  | none =>
    let format : Phrase ← do
      match ← oneOf ["EXTENDED", "FORMATTED"] with
      | some k => pure (k ++ " " : Phrase)
      | none => pure []
    let table ← if g == .snowflake then leading "TABLE" else pure []
    return verb ++ " " ++ format ++ table ++ (← objectName g)

/-! ## Statistics -/

/-- What is said about the statistics of a table. -/
structure AnalyzeClauses where
  partition : Phrase := []
  compute : Phrase := []
  noScan : Phrase := []
  cache : Phrase := []
  columns : Phrase := []

/-- Reads what is said about the statistics of a table, in any order. -/
def analyzeClauses (g : Grammar) (r : Nested) : Nat → AnalyzeClauses → Parser AnalyzeClauses
  | 0, _ => fail
  | fuel + 1, c => do
    match ← oneOf ["PARTITION", "NOSCAN", "FOR", "CACHE", "COMPUTE"] with
    | some "PARTITION" =>
      analyzeClauses g r fuel { c with partition := " PARTITION " ++ (← exprParens g r) }
    | some "NOSCAN" => analyzeClauses g r fuel { c with noScan := " NOSCAN" }
    | some "FOR" =>
      expectKeyword "COLUMNS"
      let columns := (← maybe (idents g)).getD []
      analyzeClauses g r fuel
        { c with columns := " FOR COLUMNS" ++ spaced (Statement.identList columns) }
    | some "CACHE" =>
      expectKeyword "METADATA"
      analyzeClauses g r fuel { c with cache := " CACHE METADATA" }
    | some _ =>
      expectKeyword "STATISTICS"
      analyzeClauses g r fuel { c with compute := " COMPUTE STATISTICS" }
    | none => return c

/-- Reads an `ANALYZE`. -/
def analyze (g : Grammar) (r : Nested) : Parser Phrase := do
  expectKeyword "TABLE"
  let name ← objectName g
  let c ← analyzeClauses g r ((← get).length + 1) {}
  return "ANALYZE TABLE " ++ name ++ c.partition ++ c.compute ++ c.noScan ++ c.cache ++ c.columns

/-! ## Tables -/

/-- Reads a `CACHE`. -/
def cacheTable (g : Grammar) (r : Nested) : Parser Phrase := do
  let flagged : Phrase ←
    if ← peekKeyword "TABLE" then pure [] else do pure ((← objectName g) ++ " " : Phrase)
  expectKeyword "TABLE"
  let name ← objectName g
  let options ← optionsAfter g r ["OPTIONS"] " OPTIONS"
  let opening : Phrase := "CACHE " ++ flagged ++ "TABLE " ++ name ++ options
  if ← atEnd then return opening
  unless (← peek) matches some (.word _ _) do fail
  let as ← flag ["AS"]
  return opening ++ as ++ " " ++ (← r.query)

/-- Reads an `UNCACHE`. -/
def uncacheTable (g : Grammar) : Parser Phrase := do
  expectKeyword "TABLE"
  let exists' ← ifExists
  return "UNCACHE TABLE " ++ exists' ++ (← objectName g)

/-- Reads an `MSCK`. -/
def repairTable (g : Grammar) : Parser Phrase := do
  let repair ← leading "REPAIR"
  expectKeyword "TABLE"
  let name ← objectName g
  let action ← maybe do
    let k ← oneOf ["ADD", "DROP", "SYNC"]
    expectKeyword "PARTITIONS"
    return k
  let action : Phrase := match action with
    | some (some k) => " " ++ k ++ " PARTITIONS"
    | _ => []
  return "MSCK " ++ repair ++ "TABLE " ++ name ++ action

/-- Reads the partition that is optimized, if it is said. -/
def optimizedPartition (r : Nested) : Parser Phrase := do
  unless ← keyword "PARTITION" do return []
  if ← keyword "ID" then return " PARTITION ID " ++ (← ident)
  else return " PARTITION " ++ (← anyExpr r)

/-- Reads an `OPTIMIZE`. -/
def optimize (g : Grammar) (r : Nested) : Parser Phrase := do
  unless g == .generic do fail
  expectKeyword "TABLE"
  let name ← objectName g
  let cluster ← onCluster
  let partition ← optimizedPartition r
  let final' ← flag ["FINAL"]
  let unique : Phrase ←
    if ← keyword "DEDUPLICATE" then do
      pure (" DEDUPLICATE" ++ (← exprClause "BY" r) : Phrase)
    else pure []
  return "OPTIMIZE TABLE " ++ name ++ cluster ++ partition ++ final' ++ unique

/-- Reads a locked table. -/
def lockedTable : Parser Phrase := do
  let name ← ident
  let asName : Phrase ← do
    match ← optionalAlias ["READ", "WRITE", "LOW_PRIORITY"] with
    | some i => pure ("AS " ++ i ++ " " : Phrase)
    | none => pure []
  let kind ← do
    if ← keyword "READ" then
      if ← keyword "LOCAL" then pure "READ LOCAL" else pure "READ"
    else if ← keyword "WRITE" then pure "WRITE"
    else
      expectKeywords ["LOW_PRIORITY", "WRITE"]
      pure "LOW_PRIORITY WRITE"
  return name ++ " " ++ asName ++ kind

/-- Reads a `LOCK TABLES`. -/
def lockTables (g : Grammar) : Parser Phrase := return "LOCK TABLES " ++ (← list g lockedTable)

/-- Reads a comment on a thing. -/
def comment (g : Grammar) : Parser Phrase := do
  unless g == .generic || g == .snowflake || g == .postgres do fail
  let exists' ← ifExists
  expectKeyword "ON"
  let kind ← expectOneOf
    ["COLUMN", "TABLE", "EXTENSION", "SCHEMA", "DATABASE", "USER", "ROLE"]
  let name ← objectName g
  expectKeyword "IS"
  let opening : Phrase := "COMMENT " ++ exists' ++ "ON " ++ kind ++ " " ++ name ++ " IS "
  if ← keyword "NULL" then return opening ++ "NULL" else return opening ++ (← plainString g)

/-! ## Servers -/

/-- Reads a `KILL`. -/
def kill (g : Grammar) : Parser Phrase := do
  let kinds := ["CONNECTION", "QUERY"] ++ if g == .generic then ["MUTATION"] else []
  let kind : Phrase ← do
    match ← oneOf kinds with
    | some k => pure (k ++ " " : Phrase)
    | none => pure []
  return "KILL " ++ kind ++ toString (← natural)

/-- Reads the tables that are flushed, and whether they stay locked or are exported. A lexeme that
is no word ends the list and is taken with it. -/
def flushedTables (g : Grammar) : Nat → Phrase → Phrase → Phrase → Parser Phrase
  | 0, _, _, _ => fail
  | fuel + 1, names, readLock, export' => do
    match ← peek with
    | some l@(.word _ _) =>
      if l.isPlainWord then
        flushedTables g fuel (" " ++ (← namesPhrase g)) readLock export'
      else
        skip
        if l.isKeyword "WITH" then
          let found ← keywords ["READ", "LOCK"]
          flushedTables g fuel names (onlyText found " WITH READ LOCK") export'
        else if l.isKeyword "FOR" then
          let found ← keyword "EXPORT"
          flushedTables g fuel names readLock (onlyText found " FOR EXPORT")
        else flushedTables g fuel names readLock export'
    | _ =>
      skip
      return names ++ readLock ++ export'

/-- What can be flushed besides tables. -/
def flushable : List (List String) :=
  [["BINARY", "LOGS"], ["ENGINE", "LOGS"], ["ERROR", "LOGS"], ["GENERAL", "LOGS"], ["HOSTS"],
    ["PRIVILEGES"], ["OPTIMIZER_COSTS"], ["SLOW", "LOGS"], ["STATUS"], ["USER_RESOURCES"],
    ["LOGS"]]

/-- Reads a `FLUSH`. -/
def flush (g : Grammar) : Parser Phrase := do
  unless g == .mysql || g == .generic do fail
  let place ← choice ["NO_WRITE_TO_BINLOG", "LOCAL"]
  if ← keywords ["RELAY", "LOGS"] then
    return "FLUSH" ++ place ++ " RELAY LOGS" ++
      (← clause ["FOR", "CHANNEL"] do return (← objectName g))
  if ← keyword "TABLES" then
    return "FLUSH" ++ place ++ " TABLES" ++ (← flushedTables g ((← get).length + 1) [] [] [])
  match ← firstFlag flushable with
  | [] => fail
  | kind => return "FLUSH" ++ place ++ kind

/-- Reads a `DISCARD`. -/
def discard : Parser Phrase := do
  match ← expectOneOf ["ALL", "PLANS", "SEQUENCES", "TEMP", "TEMPORARY"] with
  | "TEMPORARY" => return "DISCARD TEMP"
  | k => return ("DISCARD " ++ k : String)

/-! ## Databases and extensions -/

/-- Reads an option of an attached database. -/
def attachOption : Parser Phrase := do
  if ← keyword "READ_ONLY" then
    if ← keyword "TRUE" then return "READ_ONLY true"
    else if ← keyword "FALSE" then return "READ_ONLY false"
    else return "READ_ONLY"
  else
    expectKeyword "TYPE"
    return "TYPE " ++ (← ident)

/-- Reads an `ATTACH`. -/
def attach (g : Grammar) (r : Nested) : Parser Phrase := do
  let database ← leading "DATABASE"
  if g == .duckdb then
    let exists' ← ifNotExists
    let path ← ident
    let name ← clause ["AS"] do return (← ident)
    let options : Phrase ←
      if ← peekSymbol "(" then do
        pure (" " ++ (← inParens (commas <$> separated false attachOption)) : Phrase)
      else pure []
    return "ATTACH " ++ database ++ exists' ++ path ++ name ++ options
  else
    let file ← anyExpr r
    expectKeyword "AS"
    return "ATTACH " ++ database ++ file ++ " AS " ++ (← ident)

/-- Reads a `DETACH`. -/
def detach (g : Grammar) : Parser Phrase := do
  unless g == .duckdb || g == .generic do fail
  let database ← leading "DATABASE"
  let exists' ← ifExists
  return "DETACH " ++ database ++ exists' ++ (← ident)

/-- Reads the value of a `PRAGMA`. -/
def pragmaValue (g : Grammar) : Parser Value := do
  match ← value g with
  | v@(.string _) | v@(.doubleQuoted _) | v@(.number ..) | v@(.placeholder _) => return v
  | _ => fail

/-- Reads a `PRAGMA`. -/
def pragma (g : Grammar) : Parser Phrase := do
  let name ← objectName g
  if ← symbol "(" then
    let v ← pragmaValue g
    expect ")"
    return "PRAGMA " ++ name ++ "(" ++ v ++ ")"
  else if ← symbol "=" then return "PRAGMA " ++ name ++ " = " ++ (← pragmaValue g)
  else return "PRAGMA " ++ name

/-- Reads a `NOTIFY`. -/
def notify (g : Grammar) : Parser Phrase := do
  let channel ← ident
  if ← symbol "," then return "NOTIFY " ++ channel ++ ", " ++ (← plainString g)
  else return "NOTIFY " ++ channel

/-- Reads an `UNLISTEN`. -/
def unlisten : Parser Phrase := do
  if ← symbol "*" then return "UNLISTEN *" else return "UNLISTEN " ++ (← ident)

/-- Reads an `ASSERT`. -/
def assert (r : Nested) : Parser Phrase := do
  let condition ← anyExpr r
  return "ASSERT " ++ condition ++ (← exprClause "AS" r)

/-- Reads a `CALL`. The name of a procedure is no function. -/
def callCommand (g : Grammar) (r : Nested) : Parser Phrase := do
  let name ← objectName g
  if ← peekSymbol "(" then
    return "CALL " ++ name ++ (← callTail g r (interval g r (operand g r)))
  else return "CALL " ++ name

end DatasetSql.Statement.Parser
