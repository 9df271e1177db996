import DatasetSql.Statement.Parser.Setting

/-!
# Reading commands about a session

Settings, transactions, cursors and prepared statements, each after its keyword.
-/

namespace DatasetSql.Statement.Parser

/-! ## Transactions -/

/-- Reads a mode of a transaction, if there is one. -/
def transactionMode : Parser Phrase := do
  if ← keywords ["ISOLATION", "LEVEL"] then
    match ← firstFlag [["READ", "UNCOMMITTED"], ["READ", "COMMITTED"], ["REPEATABLE", "READ"],
      ["SERIALIZABLE"], ["SNAPSHOT"]] with
    | [] => fail
    | level => return "ISOLATION LEVEL" ++ level
  else if ← keywords ["READ", "ONLY"] then return "READ ONLY"
  else if ← keywords ["READ", "WRITE"] then return "READ WRITE"
  else return []

/-- Reads modes of a transaction; commas between them may be left out. -/
def transactionModesFrom : Nat → Bool → Parser (List Phrase)
  | 0, _ => fail
  | fuel + 1, required => do
    match ← transactionMode with
    | [] => if required then fail else return []
    | mode =>
      let comma ← symbol ","
      return mode :: (← transactionModesFrom fuel comma)

/-- Reads modes of a transaction, with a blank before them. -/
def transactionModes : Parser Phrase := do
  return afterText " " (commas (← transactionModesFrom ((← get).length + 1) false))

/-- Reads whether a transaction follows at once. -/
def chain : Parser Phrase := do
  let _ ← oneOf ["TRANSACTION", "WORK"]
  unless ← keyword "AND" do return []
  let no ← keyword "NO"
  expectKeyword "CHAIN"
  return onlyText (!no) " AND CHAIN"

/-- Reads a `BEGIN`. -/
def beginCommand (g : Grammar) : Parser Phrase := do
  let kind ←
    if g == .generic then choice ["DEFERRED", "IMMEDIATE", "EXCLUSIVE"] else pure []
  let word ← choice ["TRANSACTION", "WORK"]
  return "BEGIN" ++ kind ++ word ++ (← transactionModes)

/-- Reads a `START`. -/
def startCommand : Parser Phrase := do
  expectKeyword "TRANSACTION"
  return "START TRANSACTION" ++ (← transactionModes)

/-- Reads a `ROLLBACK`. -/
def rollback : Parser Phrase := do
  let chain ← chain
  if ← keyword "TO" then
    let _ ← keyword "SAVEPOINT"
    return "ROLLBACK" ++ chain ++ " TO SAVEPOINT " ++ (← ident)
  else return "ROLLBACK" ++ chain

/-! ## SET -/

/-- Reads the role that a session takes, after its modifier. -/
def setRole (modifier : Option String) : Parser Phrase := do
  expectKeyword "ROLE"
  let words : Phrase := (modifier.map (" " ++ ·)).getD ""
  if ← keyword "NONE" then return "SET" ++ words ++ " ROLE NONE"
  else return "SET" ++ words ++ " ROLE " ++ (← ident)

/-- What is set: a variable, or several in parentheses. -/
inductive SetTarget where
  | one (name : ObjectName)
  | many (names : List Ident)

/-- Reads what is set. -/
def setTarget (g : Grammar) : Parser SetTarget := do
  let grouped := g == .bigquery || g == .snowflake || g == .generic
  if ← keywords ["TIME", "ZONE"] then return .one [⟨"TIMEZONE", none⟩]
  else if grouped && (← peekSymbol "(") then return .many (← identList g)
  else return .one (← objectName g)

/-- Reads a value that something is set to; a query needs no parentheses. -/
def setValue (r : Nested) : Parser Expr := do
  if ← peekQuery then return .subquery (← r.query) else anyExpr r

/-- Reads values between commas, at most so many. -/
def setValues (r : Nested) : Nat → Parser (List Expr)
  | 0 => fail
  | fuel + 1 => do
    let e ← setValue r
    if ← symbol "," then return e :: (← setValues r fuel) else return [e]

/-- Reads the names of a character set and a collation. -/
def setNames (g : Grammar) : Parser Phrase := do
  if ← keyword "DEFAULT" then return "SET NAMES DEFAULT"
  let charset ← literalString g
  if ← keyword "COLLATE" then return "SET NAMES " ++ charset ++ " COLLATE " ++ (← literalString g)
  else return "SET NAMES " ++ charset

/-- Reads what follows a variable that is not assigned to. -/
def setSpecial (g : Grammar) (r : Nested) (modifier : Option String) (name : String) :
    Parser Phrase := do
  if Text.eqIgnoreCase name "TIMEZONE" then
    let localWord := onlyText (modifier == some "LOCAL") "LOCAL "
    return "SET " ++ localWord ++ "TIME ZONE " ++ (← anyExpr r)
  else if name == "CHARACTERISTICS" then
    expectKeywords ["AS", "TRANSACTION"]
    return "SET SESSION CHARACTERISTICS AS TRANSACTION" ++ (← transactionModes)
  else if name == "TRANSACTION" && modifier.isNone then
    if ← keyword "SNAPSHOT" then return "SET TRANSACTION SNAPSHOT " ++ (← value g)
    else return "SET TRANSACTION" ++ (← transactionModes)
  else fail

/-- Reads a `SET`. -/
def setCommand (g : Grammar) (r : Nested) : Parser Phrase := do
  let modifier ← oneOf ["SESSION", "LOCAL", "HIVEVAR"]
  if modifier == some "HIVEVAR" then expect ":"
  else if let some phrase ← maybe (setRole modifier) then return phrase
  let target ← setTarget g
  let (name, grouped) := match target with
    | .one name => (nameText name, false)
    | .many names => (columnsText names, true)
  if !grouped && (g == .mysql || g == .generic) && Text.eqIgnoreCase name "NAMES" then
    return (← setNames g)
  let sign ← symbol "="
  let assigned ← if sign then pure true else keyword "TO"
  if assigned then
    if grouped then expect "("
    let values ← setValues r ((← get).length + 1)
    if grouped then expect ")"
    let words := match modifier with
      | some "LOCAL" => "LOCAL "
      | some "HIVEVAR" => "HIVEVAR:"
      | _ => ""
    let values := exprList values
    return "SET " ++ words ++ name ++ " = " ++ if grouped then "(" ++ values ++ ")" else values
  if grouped then fail
  setSpecial g r modifier name

/-! ## SHOW -/

/-- Reads which of the things shown are wanted, if it is said. -/
def showFilter (g : Grammar) (r : Nested) : Parser Phrase := do
  if ← keyword "LIKE" then return " LIKE " ++ (← quotedString g)
  else if ← keyword "ILIKE" then
    let s := (quoted '\'' (← literalString g)).toList
    return " ILIKE " ++ String.ofList (s.drop 1).dropLast
  else if ← keyword "WHERE" then return " WHERE " ++ (← anyExpr r)
  else
    match ← maybe (literalString g) with
    | some s => return " " ++ quoted '\'' s
    | none => return []

/-- Reads where the things shown are, after `FROM` or `IN`. -/
def showPlace (g : Grammar) : Parser Phrase := do
  match ← oneOf ["ACCOUNT", "DATABASE", "SCHEMA", "TABLE", "VIEW"] with
  | some k =>
    let ends := (← peekKeywords ["STARTS", "WITH"]) || (← peekKeyword "LIMIT")
    if (k == "DATABASE" || k == "SCHEMA") && ends then return (" " ++ k : String)
    match ← maybe (objectName g) with
    | some name => return " " ++ k ++ " " ++ name
    | none => return (" " ++ k : String)
  | none =>
    let name ← objectName g
    if (← oneOf ["FROM", "IN"]).isSome then
      let outer ← ident
      return " " ++ nameText (outer :: name)
    else return " " ++ name

/-- Reads where the things shown are, if it is said. -/
def showIn (g : Grammar) : Parser Phrase := do
  match ← oneOf ["FROM", "IN"] with
  | some k => return " " ++ k ++ (← showPlace g)
  | none => return []

/-- Reads the options of a `SHOW`. In one grammar the filter stands first, in the others it is
written last. -/
def showOptions (g : Grammar) (r : Nested) : Parser Phrase := do
  let first ← if g == .snowflake then showFilter g r else pure []
  let place ← showIn g
  let last ← if g == .snowflake then pure [] else showFilter g r
  let starts ← clause ["STARTS", "WITH"] do return (← value g)
  let limit ← limitClause r
  let from' ← clause ["FROM"] do return (← value g)
  return first ++ place ++ starts ++ limit ++ from' ++ last

/-- Reads the words that are shown, up to an equals sign or the end of the text. What is no word is
passed over. -/
def shownWords : Nat → Parser (List String)
  | 0 => return []
  | fuel + 1 => do
    match ← peek with
    | none | some (.symbol "=") => return []
    | some (.word i _) =>
      skip
      return i.text :: (← shownWords fuel)
    | some _ =>
      skip
      shownWords fuel

/-- Reads a `SHOW`. -/
def showCommand (g : Grammar) (r : Nested) : Parser Phrase := do
  let terse ← leading "TERSE"
  let extended ← leading "EXTENDED"
  let full ← leading "FULL"
  let session ← flag ["SESSION"]
  let global' ← flag ["GLOBAL"]
  let external ← leading "EXTERNAL"
  let mysql := g == .mysql || g == .generic
  if (← oneOf ["COLUMNS", "FIELDS"]).isSome then
    return "SHOW " ++ extended ++ full ++ "COLUMNS" ++ (← showOptions g r)
  if ← keyword "TABLES" then
    let history ← if external.isEmpty then flag ["HISTORY"] else pure []
    return "SHOW " ++ terse ++ extended ++ full ++ external ++ "TABLES" ++ history ++
      (← showOptions g r)
  if ← keywords ["MATERIALIZED", "VIEWS"] then
    return "SHOW " ++ terse ++ "MATERIALIZED VIEWS" ++ (← showOptions g r)
  if ← keyword "VIEWS" then return "SHOW " ++ terse ++ "VIEWS" ++ (← showOptions g r)
  if ← keyword "FUNCTIONS" then return "SHOW FUNCTIONS" ++ (← showFilter g r)
  unless extended.isEmpty && full.isEmpty do fail
  if ← keyword "CREATE" then
    let kind ← expectOneOf ["TABLE", "TRIGGER", "FUNCTION", "PROCEDURE", "EVENT", "VIEW"]
    return "SHOW CREATE " ++ kind ++ " " ++ (← objectName g)
  if ← keyword "COLLATION" then return "SHOW COLLATION" ++ (← showFilter g r)
  let variables' ← keyword "VARIABLES"
  if variables' && mysql then
    return "SHOW" ++ global' ++ session ++ " VARIABLES" ++ (← showFilter g r)
  let status ← keyword "STATUS"
  if status && mysql then
    return "SHOW" ++ global' ++ session ++ " STATUS" ++ (← showFilter g r)
  if let some k ← oneOf ["DATABASES", "SCHEMAS"] then
    let history ← flag ["HISTORY"]
    return "SHOW " ++ terse ++ k ++ history ++ (← showOptions g r)
  let words ← shownWords ((← get).length + 1)
  return ("SHOW" ++ Text.joined "" (words.map (" " ++ ·)) : String)

/-! ## USE -/

/-- Reads a `USE`. -/
def useCommand (g : Grammar) : Parser Phrase := do
  let kinds := ["DATABASE", "SCHEMA", "WAREHOUSE", "ROLE", "SECONDARY"]
  match ← if g == .snowflake then oneOf kinds else pure none with
  | some "SECONDARY" =>
    expectKeyword "ROLES"
    match ← oneOf ["NONE", "ALL"] with
    | some k => return ("USE SECONDARY ROLES " ++ k : String)
    | none => return "USE SECONDARY ROLES " ++ (← identsPhrase g)
  | some k => return "USE " ++ k ++ " " ++ (← objectName g)
  | none => return "USE " ++ (← objectName g)

/-! ## Cursors -/

/-- Reads a cursor and its query. -/
def declareCursor (r : Nested) : Parser Phrase := do
  let name ← ident
  let binary ← flag ["BINARY"]
  let sensitive ← choice ["INSENSITIVE", "ASENSITIVE"]
  let scroll ← firstFlag [["SCROLL"], ["NO", "SCROLL"]]
  expectKeyword "CURSOR"
  let hold : Phrase ← do
    match ← oneOf ["WITH", "WITHOUT"] with
    | some k => expectKeyword "HOLD"; pure (" " ++ k ++ " HOLD" : Phrase)
    | none => pure []
  expectKeyword "FOR"
  return name ++ binary ++ sensitive ++ scroll ++ " CURSOR" ++ hold ++ " FOR " ++ (← r.query)

/-- Reads variables of one type or with one value. -/
def declareDefault (g : Grammar) (r : Nested) : Parser Phrase := do
  let names ← identsPhrase g
  if ← keyword "DEFAULT" then return names ++ " DEFAULT " ++ (← anyExpr r)
  let type ← dataType g
  return names ++ " " ++ type ++ (← exprClause "DEFAULT" r)

/-- Reads the value that a variable starts with, if it is said. -/
def declaredValue (r : Nested) : Parser Phrase := do
  if ← keyword "DEFAULT" then return " DEFAULT " ++ (← anyExpr r)
  else if ← symbol ":=" then return " := " ++ (← anyExpr r)
  else return []

/-- Reads a declaration of one of several things. -/
def declareAny (g : Grammar) (r : Nested) : Parser Phrase := do
  let name ← ident
  if ← keyword "CURSOR" then
    expectKeyword "FOR"
    if ← peekKeyword "SELECT" then return name ++ " CURSOR FOR " ++ (← r.query)
    else return name ++ " CURSOR FOR " ++ (← anyExpr r)
  else if ← keyword "RESULTSET" then return name ++ " RESULTSET" ++ (← declaredValue r)
  else if ← keyword "EXCEPTION" then
    if ← peekSymbol "(" then return name ++ " EXCEPTION " ++ (← anyExpr r)
    else return name ++ " EXCEPTION"
  else
    match ← declaredValue r with
    | [] =>
      if (← peek) matches some (.word _ _) then
        let type ← dataType g
        return name ++ " " ++ type ++ (← declaredValue r)
      else return name
    | start => return name ++ start

/-- Reads declarations between semicolons; a word without meaning starts another one. -/
def declareSeveral (g : Grammar) (r : Nested) : Nat → Parser (List Phrase)
  | 0 => fail
  | fuel + 1 => do
    let d ← declareAny g r
    let goesOn := match (← get).take 2 with
      | [.symbol ";", .word i _] => !isMeaningful (Text.upper i.value)
      | _ => false
    if goesOn then
      skip
      return d :: (← declareSeveral g r fuel)
    else return [d]

/-- Reads a variable whose name starts with a sign. -/
def declareSigned (g : Grammar) (r : Nested) : Parser Phrase := do
  let name ← ident
  unless name.value.startsWith "@" do fail
  let type : Phrase ←
    if ← keyword "CURSOR" then pure ("CURSOR" : Phrase)
    else do
      let _ ← keyword "AS"
      pure ((← dataType g) : Phrase)
  if ← symbol "=" then return name ++ " " ++ type ++ " = " ++ (← anyExpr r)
  else return name ++ " " ++ type

/-- Reads a `DECLARE`. -/
def declare (g : Grammar) (r : Nested) : Parser Phrase := do
  match g with
  | .bigquery => return "DECLARE " ++ (← declareDefault g r)
  | .snowflake => return "DECLARE " ++ between "; " (← declareSeveral g r ((← get).length + 1))
  | .tsql =>
    return "DECLARE " ++ between "; " (← separated (trailingCommas g) (declareSigned g r))
  | _ => return "DECLARE " ++ (← declareCursor r)

/-- Reads where a cursor goes. -/
def fetchDirection (g : Grammar) : Parser Phrase := do
  match ← oneOf ["NEXT", "PRIOR", "FIRST", "LAST", "ALL", "ABSOLUTE", "RELATIVE", "FORWARD",
    "BACKWARD"] with
  | some k =>
    if k == "ABSOLUTE" || k == "RELATIVE" then return k ++ " " ++ (← numberValue g)
    else if k == "FORWARD" || k == "BACKWARD" then
      if ← keyword "ALL" then return k ++ " ALL" else return k ++ " " ++ (← numberValue g)
    else return k
  | none => numberValue g

/-- Reads a `FETCH`. -/
def fetchCommand (g : Grammar) : Parser Phrase := do
  let direction ← fetchDirection g
  let _ ← expectOneOf ["FROM", "IN"]
  let name ← ident
  return "FETCH " ++ direction ++ " IN " ++ name ++ (← clause ["INTO"] do return (← objectName g))

/-! ## Prepared statements -/

/-- Reads a `PREPARE`. -/
def prepare (g : Grammar) (r : Nested) : Parser Phrase := do
  let name ← ident
  let types : Phrase ←
    if ← peekSymbol "(" then do
      pure ((← inParens (list g do return (← dataType g))) ++ " " : Phrase)
    else pure []
  expectKeyword "AS"
  return "PREPARE " ++ name ++ " " ++ types ++ "AS " ++ statementPhrase (← r.statement)

/-- Reads what a statement is executed with, without parentheses. -/
def bareParameters (g : Grammar) (r : Nested) : Parser Phrase := do
  let ends ← atEnd
  if ends || (← peekKeyword "USING") || (← peekSymbol ";") then return []
  else return " " ++ (← exprListPhrase g r)

/-- Reads an `EXECUTE`. -/
def execute (g : Grammar) (r : Nested) : Parser Phrase := do
  let name ← objectName g
  let parameters : Phrase ←
    if ← symbol "(" then do
      let parameters ← separatedOrNone (trailingCommas g) (anyExpr r) ")"
      expect ")"
      pure ("(" ++ exprList parameters ++ ")" : Phrase)
    else bareParameters g r
  let using' : Phrase ←
    if ← keyword "USING" then do
      pure (" USING " ++ exprList (← separated false (anyExpr r)) : Phrase)
    else pure []
  return "EXECUTE " ++ name ++ parameters ++ using'

/-- Reads a `DEALLOCATE`. -/
def deallocate : Parser Phrase := do
  let prepare ← leading "PREPARE"
  return "DEALLOCATE " ++ prepare ++ (← ident)

end DatasetSql.Statement.Parser
