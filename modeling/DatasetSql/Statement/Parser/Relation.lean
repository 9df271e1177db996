import DatasetSql.Statement.Parser.Expr

/-!
# Reading relations

What stands in a `FROM` clause: tables, table functions, derived tables and what is joined to them.
-/

namespace DatasetSql.Statement.Parser

/-! ## Aliases -/

/-- Reads a column of an alias list, with or without its type. -/
def aliasColumn (g : Grammar) : Parser String := do
  let name ← ident
  match ← maybe (dataType g) with
  | some type => return name.text ++ " " ++ type.text
  | none => return name.text

/-- Reads the column list of an alias, if there is one. -/
def aliasColumns (g : Grammar) : Parser (List String) := do
  if ← peekSymbol "(" then parenthesized (separated (trailingCommas g) (aliasColumn g))
  else return []

/-- Reads the alias of a relation, if there is one. -/
def tableAlias (g : Grammar) : Parser (Option TableAlias) := do
  match ← optionalAlias tableAliasReserved with
  | some name => return some ⟨name, ← aliasColumns g⟩
  | none => return none

/-- The relation with an alias, unless it has one. -/
def withAlias? (a : TableAlias) : Relation → Option Relation
  | .table name isCall detail none tail => some (.table name isCall detail (some a) tail)
  | .derived lateral q none => some (.derived lateral q (some a))
  | .nested source none => some (.nested source (some a))
  | .form parts none tail => some (.form parts (some a) tail)
  | _ => none

/-- Reads the alias of a relation without an own kind. -/
def formed (g : Grammar) (parts : Phrase) : Parser Relation := do
  return .form parts (← tableAlias g) ""

/-- A relation as a part of a phrase. -/
def relationPart (relation : Relation) : Phrase := Source.mk relation []

/-! ## Rows and queries -/

/-- Reads a row of values, and tells whether it says that it is one. -/
def valuesRow (g : Grammar) (r : Nested) (allowEmpty : Bool) : Parser (Bool × Phrase) := do
  let row ← keyword "ROW"
  let es ← inParens do
    if allowEmpty && (← peekSymbol ")") then return [] else exprListPhrase g r
  return (row, es)

/-- Reads rows of values after `VALUES`. If one row says that it is one, all are written so. -/
def valuesPhrase (g : Grammar) (r : Nested) (allowEmpty : Bool) : Parser Phrase := do
  let rows ← separated (trailingCommas g) (valuesRow g r allowEmpty)
  let word := if rows.any (·.1) then "ROW" else ""
  return "VALUES " ++ commas (rows.map fun (_, row) => word ++ row)

/-- A query that is only a body. -/
def plainQuery (body : Body) : Query := .mk false [] body [] none none .none [] none none ""

/-- Reads a query in parentheses as a relation, after the opening one. -/
def derived (g : Grammar) (r : Nested) (lateral : Bool) : Parser Relation := do
  let q ← r.query
  expect ")"
  return .derived lateral q (← tableAlias g)

/-! ## Pivots -/

/-- Reads a call with its alias. -/
def pivotCall (g : Grammar) (r : Nested) : Parser Phrase := do
  match ← next with
  | .word i _ =>
    let e ← call g r (interval g r (operand g r)) [⟨i.value, none⟩]
    if ← keyword "AS" then return e ++ " AS " ++ (← ident) else return e
  | _ => fail

/-- Reads the values that become columns. -/
def pivotValues (g : Grammar) (r : Nested) : Parser Phrase := do
  if ← keyword "ANY" then return "ANY" ++ (← orderClause g r)
  else if ← peekQuery then queryPhrase r
  else
    list g do
      let e ← anyExpr r
      if ← keyword "AS" then return e ++ " AS " ++ (← ident) else return e

/-- Reads what stands in the parentheses of a `PIVOT`. -/
def pivot (g : Grammar) (r : Nested) : Parser Phrase :=
  parenthesized do
    let calls ← list g (pivotCall g r)
    expectKeyword "FOR"
    let column ← objectName g
    expectKeyword "IN"
    let values ← inParens (pivotValues g r)
    let default ← clause ["DEFAULT", "ON", "NULL"] (inParens (exprPhrase r))
    return " PIVOT(" ++ calls ++ " FOR " ++ column ++ " IN " ++ values ++ default ++ ")"

/-- Reads what stands in the parentheses of an `UNPIVOT`. -/
def unpivot (g : Grammar) : Parser Phrase :=
  parenthesized do
    let value ← ident
    expectKeyword "FOR"
    let name ← ident
    expectKeyword "IN"
    let columns ← identList g
    return " UNPIVOT(" ++ value ++ " FOR " ++ name ++ " IN " ++ columnsText columns ++ ")"

/-- Reads pivots after a relation, at most so many. -/
def pivotsFrom (g : Grammar) (r : Nested) : Nat → Relation → Parser Relation
  | 0, relation => return relation
  | fuel + 1, relation => do
    if ← keyword "PIVOT" then
      let p ← pivot g r
      pivotsFrom g r fuel (← formed g (relationPart relation ++ p))
    else if ← keyword "UNPIVOT" then
      let p ← unpivot g
      pivotsFrom g r fuel (← formed g (relationPart relation ++ p))
    else return relation

/-- Reads pivots after a relation. -/
def pivots (g : Grammar) (r : Nested) (relation : Relation) : Parser Relation := do
  pivotsFrom g r ((← get).length + 1) relation

/-! ## Row patterns -/

/-- Reads how often a pattern is repeated, if it is said. -/
def repetition : Parser (Option String) := do
  if ← symbol "*" then return some "*"
  else if ← symbol "+" then return some "+"
  else if (← peek) == some (.literal (.placeholder "?")) then skip; return some "?"
  else if ← symbol "\x7b" then
    let low ← if ← peekSymbol "," then pure "" else do pure (toString (← natural))
    let high ←
      if ← symbol "," then do
        if !low.isEmpty && (← peekSymbol "\x7d") then pure ","
        else pure ("," ++ toString (← natural))
      else pure ""
    expect "\x7d"
    return some ("\x7b" ++ low ++ high ++ "\x7d")
  else return none

/-- Reads a pattern without repetition; `pattern` reads one in parentheses. -/
def basePattern (g : Grammar) (pattern : Parser String) : Parser String := do
  match ← peek with
  | some (.symbol "^") => skip; return "^"
  | some (.literal (.placeholder "$")) => skip; return "$"
  | some (.symbol "\x7b") =>
    skip
    expect "-"
    let name ← ident
    expect "-"
    expect "\x7d"
    return "\x7b- " ++ name.text ++ " -\x7d"
  | some (.symbol "(") =>
    skip
    let p ← pattern
    expect ")"
    return "( " ++ p ++ " )"
  | some (.word ⟨"PERMUTE", none⟩ _) => skip; return "PERMUTE" ++ columnsText (← identList g)
  | _ => return (← ident).text

/-- Reads a pattern with its repetitions. -/
def repeatedPattern (g : Grammar) (pattern : Parser String) : Parser String := do
  let base ← basePattern g pattern
  return base ++ Text.joined "" (← many repetition)

/-- Reads a pattern, nested and alternating at most so often. -/
def rowPattern (g : Grammar) : Nat → Parser String
  | 0 => fail
  | fuel + 1 => do
    let first ← repeatedPattern g (rowPattern g fuel)
    let rest ← many do
      if (← peekSymbol ")") || (← peekSymbol "|") then return none
      else some <$> repeatedPattern g (rowPattern g fuel)
    let concatenated := Text.joined " " (first :: rest)
    if ← symbol "|" then return concatenated ++ " | " ++ (← rowPattern g fuel)
    else return concatenated

/-- Reads which rows a match gives, if it is said. -/
def rowsPerMatch : Parser Phrase := do
  if ← keywords ["ONE", "ROW", "PER", "MATCH"] then return "ONE ROW PER MATCH"
  else if ← keywords ["ALL", "ROWS", "PER", "MATCH"] then
    return "ALL ROWS PER MATCH" ++ (← firstFlag [["SHOW", "EMPTY", "MATCHES"],
      ["OMIT", "EMPTY", "MATCHES"], ["WITH", "UNMATCHED", "ROWS"]])
  else return []

/-- Reads where matching goes on, if it is said. -/
def afterMatch : Parser Phrase := do
  unless ← keywords ["AFTER", "MATCH", "SKIP"] do return []
  if ← keywords ["PAST", "LAST", "ROW"] then return "AFTER MATCH SKIP PAST LAST ROW"
  else if ← keywords ["TO", "NEXT", "ROW"] then return "AFTER MATCH SKIP  TO NEXT ROW"
  else if ← keywords ["TO", "FIRST"] then return "AFTER MATCH SKIP TO FIRST " ++ (← ident)
  else
    expectKeywords ["TO", "LAST"]
    return "AFTER MATCH SKIP TO LAST " ++ (← ident)

/-- Reads what stands in the parentheses of a `MATCH_RECOGNIZE`. -/
def rowMatching (g : Grammar) (r : Nested) : Parser Phrase :=
  parenthesized do
    let partition ← opened ["PARTITION", "BY"] (exprListPhrase g r)
    let order ← opened ["ORDER", "BY"] (sortKeys g r)
    let measures ← opened ["MEASURES"] <| list g do
      let e ← anyExpr r
      let _ ← keyword "AS"
      return e ++ " AS " ++ (← ident)
    let rows ← rowsPerMatch
    let next ← afterMatch
    expectKeyword "PATTERN"
    let pattern ← parenthesized do rowPattern g ((← get).length + 1)
    expectKeyword "DEFINE"
    let symbols ← list g do
      let name ← ident
      expectKeyword "AS"
      return name ++ " AS " ++ (← anyExpr r)
    let matching := "PATTERN (" ++ pattern ++ ") DEFINE " ++ symbols
    return " MATCH_RECOGNIZE(" ++ sentence [partition, order, measures, rows, next, matching] ++ ")"

/-! ## Documents as tables -/

/-- Reads what happens if a column of a document cannot be read, if it is said. -/
def columnFallback (g : Grammar) : Parser (Option Phrase) := do
  let fallback : Option Phrase ←
    if ← keyword "NULL" then pure (some ("NULL" : Phrase))
    else if ← keyword "ERROR" then pure (some ("ERROR" : Phrase))
    else if ← keyword "DEFAULT" then do pure (some ("DEFAULT " ++ (← value g)))
    else pure none
  if fallback.isSome then expectKeyword "ON"
  return fallback

/-- Reads the fallbacks of a column for a missing and for an unreadable value. -/
def columnFallbacks (g : Grammar) : Nat → Phrase → Phrase → Parser Phrase
  | 0, _, _ => fail
  | fuel + 1, empty, error => do
    match ← columnFallback g with
    | none => return empty ++ error
    | some f =>
      if ← keyword "EMPTY" then columnFallbacks g fuel (" " ++ f ++ " ON EMPTY") error
      else
        expectKeyword "ERROR"
        columnFallbacks g fuel empty (" " ++ f ++ " ON ERROR")

/-- Reads a column of a `JSON_TABLE`, nested at most so often. -/
def jsonColumn (g : Grammar) : Nat → Parser Phrase
  | 0 => fail
  | fuel + 1 => do
    if ← keyword "NESTED" then
      let _ ← keyword "PATH"
      let path ← value g
      expectKeyword "COLUMNS"
      return "NESTED PATH " ++ path ++ " COLUMNS " ++ (← inParens (list g (jsonColumn g fuel)))
    let name ← ident
    if ← keyword "FOR" then
      expectKeyword "ORDINALITY"
      return name ++ " FOR ORDINALITY"
    let type ← dataType g
    let exists' ← flag ["EXISTS"]
    expectKeyword "PATH"
    let path ← value g
    let fallbacks ← columnFallbacks g ((← get).length + 1) [] []
    return name ++ " " ++ type ++ exists' ++ " PATH " ++ path ++ fallbacks

/-- Reads a `JSON_TABLE` after its keyword. -/
def jsonTable (g : Grammar) (r : Nested) : Parser Relation := do
  expect "("
  let e ← anyExpr r
  expect ","
  let path ← value g
  expectKeyword "COLUMNS"
  let columns ← inParens do list g (jsonColumn g ((← get).length + 1))
  expect ")"
  formed g ("JSON_TABLE(" ++ e ++ ", " ++ path ++ " COLUMNS" ++ columns ++ ")")

/-- Reads a column of an `OPENJSON`. -/
def openJsonColumn (g : Grammar) : Parser Phrase := do
  let name ← ident
  let type ← dataType g
  let path : Phrase ← match ← peek with
    | some (.literal v@(.string _)) => do skip; pure (" " ++ v : Phrase)
    | _ => pure []
  let json : Phrase ←
    if ← keyword "AS" then do expectKeyword "JSON"; pure (" AS JSON" : Phrase) else pure []
  return name ++ " " ++ type ++ path ++ json

/-- Reads an `OPENJSON` after its keyword. -/
def openJson (g : Grammar) (r : Nested) : Parser Relation := do
  expect "("
  let e ← anyExpr r
  let path : Phrase ← if ← symbol "," then do pure (", " ++ (← value g) : Phrase) else pure []
  expect ")"
  let columns ← clause ["WITH"] (inParens (list g (openJsonColumn g)))
  formed g ("OPENJSON(" ++ e ++ path ++ ")" ++ columns)

/-! ## Tables -/

/-- Reads `UNNEST`, after its keyword. -/
def unnest (g : Grammar) (r : Nested) : Parser Relation := do
  let es ← inParens (exprListPhrase g r)
  let ordinality ← flag ["WITH", "ORDINALITY"]
  let asName ← tableAlias g
  let withOffset ← if ← keyword "WITH" then keyword "OFFSET" else pure false
  let tail ←
    if withOffset then do
      match ← optionalAlias columnAliasReserved with
      | some i => pure (" WITH OFFSET AS " ++ i.text)
      | none => pure " WITH OFFSET"
    else pure ""
  return .form ("UNNEST" ++ es ++ ordinality) asName tail

/-- Reads hints after a table, if there are any. -/
def tableHints (g : Grammar) (r : Nested) : Parser Phrase := do
  if (← peekKeyword "WITH") && (← peekSymbolAt 1 "(") then
    skip
    return " WITH " ++ (← inParens (exprListPhrase g r))
  else return []

/-- Reads the version of a table, if it is said. -/
def tableVersion (g : Grammar) (r : Nested) : Parser Phrase :=
  if g == .bigquery || g == .tsql then
    clause ["FOR", "SYSTEM_TIME", "AS", "OF"] (exprPhrase r)
  else return []

/-- Reads the partitions of a table, if they are said. -/
def tablePartitions (g : Grammar) : Parser Phrase := do
  if ← onlyIf (g == .mysql || g == .generic) (keyword "PARTITION") then
    return "PARTITION " ++ columnsText (← identList g)
  else return []

/-- Reads a table by name, or a call of a table function. -/
def namedTable (g : Grammar) (r : Nested) : Parser Relation := do
  let name ← tableName g
  let path ← if g == .redshift && (← peekSymbol "[") then documentPath r else pure []
  let partitions ← tablePartitions g
  let version ← tableVersion g r
  let isCall ← symbol "("
  let args ← if isCall then tableArguments g r else pure []
  let ordinality ← flag ["WITH", "ORDINALITY"]
  let asName ← tableAlias g
  let hints ← tableHints g r
  let table := Relation.table name isCall (path ++ partitions ++ args ++ ordinality) asName
    (hints ++ version)
  let relation ← pivots g r table
  if ← onlyIf (g == .generic || g == .snowflake) (keyword "MATCH_RECOGNIZE") then
    let m ← rowMatching g r
    formed g (relationPart relation ++ m)
  else return relation

/-- Reads a source in parentheses, after the opening one. Only some grammars accept a single
relation there; its alias may follow the parentheses. -/
def nestedSource (g : Grammar) (source : Parser Source) : Parser Relation := do
  match ← source with
  | .mk relation [] =>
    if relation matches .nested .. then
      expect ")"
      return .nested (.mk relation []) (← tableAlias g)
    unless g == .snowflake || g == .generic do fail
    expect ")"
    match ← tableAlias g with
    | some a =>
      match withAlias? a relation with
      | some relation => return relation
      | none => fail
    | none => return relation
  | .mk relation joins =>
    expect ")"
    return .nested (.mk relation joins) (← tableAlias g)

/-- Whether a values list stands where a relation is expected, without parentheses. -/
def peekBareValues (g : Grammar) : Parser Bool :=
  return (g == .snowflake || g == .generic) && (← peekKeyword "VALUES") && (← peekSymbolAt 1 "(")

/-- Whether a call of a function with this name comes next. -/
def peekCall (k : String) : Parser Bool := return (← peekKeyword k) && (← peekSymbolAt 1 "(")

/-- Reads a relation; `source` reads what stands in parentheses. -/
def relationWith (g : Grammar) (r : Nested) (source : Parser Source) : Parser Relation := do
  if ← keyword "LATERAL" then
    if ← symbol "(" then derived g r true
    else
      let name ← objectName g
      expect "("
      let args ← arguments g r
      formed g ("LATERAL " ++ name ++ args)
  else if ← keyword "TABLE" then
    let e ← parenthesized (anyExpr r)
    formed g ("TABLE(" ++ e ++ ")")
  else if ← symbol "(" then
    match ← maybe (derived g r false) with
    | some relation => pivots g r relation
    | none => nestedSource g source
  else if ← peekBareValues g then
    skip
    let rows ← valuesPhrase g r false
    return .derived false (plainQuery (.phrase rows)) (← tableAlias g)
  else if ← onlyIf (g == .bigquery || g == .postgres || g == .generic) (keyword "UNNEST") then
    unnest g r
  else if ← peekCall "JSON_TABLE" then skip; jsonTable g r
  else if ← peekCall "OPENJSON" then skip; openJson g r
  else namedTable g r

/-! ## Joins -/

/-- Reads the words after `LEFT` or `RIGHT`. -/
def sidedJoin (side : String) : Parser String := do
  match ← expectOneOf ["OUTER", "SEMI", "ANTI", "JOIN"] with
  | "OUTER" => expectKeyword "JOIN"; return side ++ " JOIN"
  | "JOIN" => return side ++ " JOIN"
  | k => expectKeyword "JOIN"; return side ++ " " ++ k ++ " JOIN"

/-- Reads the words of a join that may have a condition; none if there is no join. -/
def joinWords : Parser (Option String) := do
  match ← oneOf ["INNER", "JOIN", "LEFT", "RIGHT", "ANTI", "SEMI", "FULL"] with
  | some "JOIN" => return some "JOIN"
  | some "INNER" => expectKeyword "JOIN"; return some "JOIN"
  | some "FULL" =>
    let _ ← keyword "OUTER"
    expectKeyword "JOIN"
    return some "FULL JOIN"
  | some "ANTI" => expectKeyword "JOIN"; return some "ANTI JOIN"
  | some "SEMI" => expectKeyword "JOIN"; return some "SEMI JOIN"
  | some side => some <$> sidedJoin side
  | none => return none

/-- Reads how the rows of a join are paired, if it is said. -/
def joinCondition (g : Grammar) (r : Nested) : Parser Phrase := do
  if ← keyword "ON" then return " ON " ++ (← anyExpr r)
  else if ← keyword "USING" then return " USING" ++ columnsText (← identList g)
  else return []

/-- Reads a join, if there is one. -/
def join (g : Grammar) (r : Nested) (relation : Parser Relation) : Parser (Option Join) := do
  let blank := if ← keyword "GLOBAL" then " GLOBAL " else " "
  if ← keyword "CROSS" then
    let words ← expectOneOf ["JOIN", "APPLY"]
    return some (.mk (blank ++ "CROSS " ++ words) (← relation) [])
  else if ← keyword "OUTER" then
    expectKeyword "APPLY"
    return some (.mk (blank ++ "OUTER APPLY") (← relation) [])
  else if ← keyword "ASOF" then
    expectKeyword "JOIN"
    let joined ← relation
    expectKeyword "MATCH_CONDITION"
    let condition ← inParens (exprPhrase r)
    return some (.mk (blank ++ "ASOF JOIN") joined
      (" MATCH_CONDITION " ++ condition ++ (← joinCondition g r)))
  else
    let natural ← keyword "NATURAL"
    match ← joinWords with
    | none => if natural then fail else return none
    | some words =>
      let joined ← relation
      if natural then return some (.mk (blank ++ "NATURAL " ++ words) joined [])
      else return some (.mk (blank ++ words) joined (← joinCondition g r))

/-- Reads a relation and its joins, parentheses nested at most so often. -/
def sourceFrom (g : Grammar) (r : Nested) : Nat → Parser Source
  | 0 => fail
  | fuel + 1 => do
    let relation := relationWith g r (sourceFrom g r fuel)
    let first ← relation
    return .mk first (← many (join g r relation))

/-- Reads a relation and its joins. -/
def source (g : Grammar) (r : Nested) : Parser Source := do
  sourceFrom g r ((← get).length + 1)

/-- Reads a relation without joins. -/
def relation (g : Grammar) (r : Nested) : Parser Phrase := do
  return relationPart (← relationWith g r (source g r))

/-- Reads relations with their joins between commas. -/
def sources (g : Grammar) (r : Nested) : Parser (List Source) :=
  separated (trailingCommas g) (source g r)

/-- Reads relations with their joins between commas, as a phrase. -/
def sourceList (g : Grammar) (r : Nested) : Parser Phrase := list g do return (← source g r)

end DatasetSql.Statement.Parser
