import DatasetSql.Statement.Parser.Relation

/-!
# Reading queries

One level of a query: its common table expressions, its body and the clauses after it. Queries
inside are read by the given `Nested`.
-/

namespace DatasetSql.Statement.Parser

/-! ## The select list -/

/-- Reads the columns that a wildcard leaves out, if there are any. -/
def exclusion (g : Grammar) : Parser Phrase := do
  if ← onlyIf (g == .generic || g == .duckdb || g == .snowflake) (keyword "EXCLUDE") then
    if ← peekSymbol "(" then return " EXCLUDE " ++ columnsText (← identList g)
    else return " EXCLUDE " ++ (← ident)
  else return []

/-- Reads the columns that a wildcard excepts, if there are any. -/
def exception (g : Grammar) : Parser Phrase := do
  if ← onlyIf (g == .generic || g == .bigquery) (keyword "EXCEPT") then
    if ← peekSymbol "(" then return " EXCEPT " ++ columnsText (← identList g)
    else return " EXCEPT " ++ columnsText [← ident]
  else return []

/-- Reads the columns that a wildcard replaces, if there are any. -/
def replacement (g : Grammar) (r : Nested) : Parser Phrase := do
  if g == .generic || g == .bigquery || g == .duckdb || g == .snowflake then
    clause ["REPLACE"] <| inParens <| list g do
      let e ← anyExpr r
      let as := if ← keyword "AS" then " AS " else " "
      return e ++ as ++ (← ident)
  else return []

/-- Reads a column and its new name. -/
def renamed : Parser Phrase := do
  let name ← ident
  expectKeyword "AS"
  return name ++ " AS " ++ (← ident)

/-- Reads the columns that a wildcard renames, if there are any. -/
def renamedColumns (g : Grammar) : Parser Phrase := do
  if g == .generic || g == .snowflake then
    clause ["RENAME"] do if ← peekSymbol "(" then inParens (list g renamed) else renamed
  else return []

/-- Reads the pattern of the columns that a wildcard stands for, if there is one. -/
def columnPattern (g : Grammar) : Parser Phrase := do
  if ← onlyIf (g == .generic || g == .snowflake) (keyword "ILIKE") then
    match ← next with
    | .literal v@(.string _) => return " ILIKE " ++ v
    | _ => fail
  else return []

/-- Reads what is said about a wildcard of a select list. -/
def wildcardOptions (g : Grammar) (r : Nested) : Parser Phrase := do
  let pattern ← columnPattern g
  let excluded ← if pattern.isEmpty then exclusion g else pure []
  let excepted ← exception g
  let replaced ← replacement g r
  return pattern ++ excluded ++ excepted ++ replaced ++ (← renamedColumns g)

/-- Reads an item of a select list. One grammar reads `a = b` as the alias `a` of `b`. -/
def item (g : Grammar) (r : Nested) : Parser (Expr × Option Ident) := do
  match ← exprOrWildcard r with
  | .wildcard table =>
    return (loose (wildcardText table ++ (← wildcardOptions g r)), none)
  | .expr e@(.ident ⟨name, none⟩) =>
    if Text.lower name == "from" then fail
    else return (e, ← optionalAlias columnAliasReserved)
  | .expr e@(.binary (.ident name) "=" right) =>
    if g == .tsql then return (right, some name)
    else return (e, ← optionalAlias columnAliasReserved)
  | .expr e => return (e, ← optionalAlias columnAliasReserved)

/-- Reads items of a list that a statement returns. Their aliases are words. -/
def returnedItems (g : Grammar) (r : Nested) : Parser Phrase :=
  list g do
    match ← item g r with
    | (e, some name) => return e ++ " AS " ++ name
    | (e, none) => return e

/-- Reads what a statement returns, if it is said. -/
def returning (g : Grammar) (r : Nested) : Parser Phrase :=
  clause ["RETURNING"] (returnedItems g r)

/-- Whether a comma may follow the last item of a select list. -/
def trailingItems (g : Grammar) : Bool := trailingCommas g || g == .bigquery || g == .snowflake

/-! ## What stands before the select list -/

/-- Reads a `TOP` clause after its keyword. -/
def topClause (r : Nested) : Parser Phrase := do
  let count : Phrase ←
    if ← peekSymbol "(" then inParens (exprPhrase r) else do pure (toString (← natural) : Phrase)
  let percent ← flag ["PERCENT"]
  return " TOP " ++ count ++ percent ++ (← flag ["WITH", "TIES"])

/-- Reads whether repeated rows are dropped. -/
def distinctness (g : Grammar) (r : Nested) : Parser Phrase := do
  let all ← keyword "ALL"
  unless ← keyword "DISTINCT" do return []
  if all then fail
  unless ← keyword "ON" do return " DISTINCT"
  let es ← inParens do if ← peekSymbol ")" then return [] else exprListPhrase g r
  return " DISTINCT ON " ++ es

/-- Reads what stands between `SELECT` and its items. -/
def selectOpening (g : Grammar) (r : Nested) : Parser Phrase := do
  let mode : Phrase ←
    if ← onlyIf (g == .bigquery) (keyword "AS") then do
      pure (" AS " ++ (← expectOneOf ["VALUE", "STRUCT"]) : Phrase)
    else pure []
  if ← onlyIf (g == .redshift) (keyword "TOP") then
    let top ← topClause r
    return mode ++ top ++ (← distinctness g r)
  else
    let distinct ← distinctness g r
    if ← onlyIf (g != .redshift) (keyword "TOP") then return mode ++ distinct ++ (← topClause r)
    else return mode ++ distinct

/-- Reads the table that rows are put into, if there is one. -/
def selectTarget (g : Grammar) : Parser String := do
  unless ← keyword "INTO" do return ""
  let temporary := if (← oneOf ["TEMP", "TEMPORARY"]).isSome then " TEMPORARY" else ""
  let unlogged := if ← keyword "UNLOGGED" then " UNLOGGED" else ""
  let table := if ← keyword "TABLE" then " TABLE" else ""
  return " INTO" ++ temporary ++ unlogged ++ table ++ " " ++ nameText (← objectName g)

/-! ## What stands after the sources -/

/-- Reads a lateral view, if there is one. -/
def lateralView (g : Grammar) (r : Nested) : Parser (Option Phrase) := do
  unless ← keywords ["LATERAL", "VIEW"] do return none
  let outer ← flag ["OUTER"]
  let e ← anyExpr r
  let name ← objectName g
  let columns ← separated (trailingCommas g)
    (optionalAlias ["WHERE", "GROUP", "CLUSTER", "HAVING", "LATERAL"])
  let columns := columns.filterMap id
  let tail := if columns.isEmpty then "" else " AS " ++ Statement.identList columns
  return some (" LATERAL VIEW" ++ outer ++ " " ++ e ++ " " ++ name ++ tail)

/-- Whether grouping sets have a form of their own. -/
def groupingSets (g : Grammar) : Bool := g == .duckdb || g == .postgres || g == .generic

/-- Reads expressions in parentheses as one of several sets; `lift` says that parentheses may be
left out around a single one. -/
def groupingSet (g : Grammar) (r : Nested) (lift : Bool) : Parser Phrase := do
  if lift && !(← peekSymbol "(") then exprPhrase r
  else
    let es ← parenthesized do
      if ← peekSymbol ")" then return [] else exprs g r
    match es with
    | [e] => return if lift then e else "(" ++ e ++ ")"
    | es => return "(" ++ exprList es ++ ")"

/-- Reads an item of a `GROUP BY`. -/
def groupItem (g : Grammar) (r : Nested) : Parser Phrase := do
  let sets (words : String) (lift : Bool) : Parser Phrase := do
    return loose (words ++ " " ++ (← inParens (list g (groupingSet g r lift))))
  if groupingSets g then
    if ← keywords ["GROUPING", "SETS"] then sets "GROUPING SETS" false
    else if ← keyword "CUBE" then sets "CUBE" true
    else if ← keyword "ROLLUP" then sets "ROLLUP" true
    else if (← peekSymbol "(") && (← peekSymbolAt 1 ")") then
      skip
      skip
      return loose "()"
    else exprPhrase r
  else exprPhrase r

/-- Reads a modifier after a `GROUP BY`, if there is one. -/
def groupModifier (g : Grammar) : Parser (Option Phrase) := do
  if ← onlyIf (g == .generic) (keyword "WITH") then
    return some (" WITH " ++ (← expectOneOf ["ROLLUP", "CUBE", "TOTALS"]))
  else return none

/-- Reads a `GROUP BY` clause, if there is one. -/
def groupBy (g : Grammar) (r : Nested) : Parser Phrase := do
  unless ← keywords ["GROUP", "BY"] do return []
  let groups : Phrase ← if ← keyword "ALL" then pure ("ALL" : Phrase) else list g (groupItem g r)
  return " GROUP BY " ++ groups ++ (← many (groupModifier g)).flatten

/-- Reads the definition of a named window. -/
def namedWindow (g : Grammar) (r : Nested) : Parser Phrase := do
  let name ← ident
  expectKeyword "AS"
  if ← symbol "(" then
    return name ++ " AS " ++ (← windowSpec g r (interval g r (operand g r)))
  else if g == .bigquery || g == .generic then return name ++ " AS " ++ (← ident)
  else fail

/-- Reads window definitions after `WINDOW`, if it comes next. -/
def namedWindows (g : Grammar) (r : Nested) : Parser Phrase :=
  clause ["WINDOW"] (list g (namedWindow g r))

/-- Reads named windows and the condition on them, in either order. Windows are seen first. -/
def windowsAndQualify (g : Grammar) (r : Nested) : Parser Phrase := do
  if ← peekKeyword "WINDOW" then
    let windows ← namedWindows g r
    return windows ++ (← exprClause "QUALIFY" r)
  else
    let condition ← exprClause "QUALIFY" r
    if condition.isEmpty then return []
    return seenLate condition ++ (← namedWindows g r)

/-- Reads how rows are connected to their parents, if it is said; the start is written first. -/
def connectBy (g : Grammar) (r : Nested) : Parser Phrase := do
  let written (start relations : Phrase) : Phrase :=
    " START WITH " ++ start ++ " CONNECT BY " ++ relations
  let relations : Parser Phrase := list g do return (← r.connected)
  unless g == .generic || g == .snowflake || g == .tsql || g == .redshift do return []
  if ← peekKeyword "CONNECT" then
    expectKeywords ["CONNECT", "BY"]
    let relations ← relations
    expectKeywords ["START", "WITH"]
    return written (← exprPhrase r) relations
  else if ← peekKeyword "START" then
    expectKeywords ["START", "WITH"]
    let start ← exprPhrase r
    expectKeywords ["CONNECT", "BY"]
    return written start (← relations)
  else return []

/-- Reads the clauses after the sources of a `SELECT`. -/
def selectClauses (g : Grammar) (r : Nested) : Parser Phrase := do
  let views ← many (lateralView g r)
  let early ← if g == .generic then exprClause "PREWHERE" r else pure []
  let filter ← exprClause "WHERE" r
  let groups ← groupBy g r
  let cluster ← clause ["CLUSTER", "BY"] (exprListPhrase g r)
  let distribution ← clause ["DISTRIBUTE", "BY"] (exprListPhrase g r)
  let sorting ← clause ["SORT", "BY"] (exprListPhrase g r)
  let having ← exprClause "HAVING" r
  let windows ← windowsAndQualify g r
  return views.flatten ++ early ++ filter ++ groups ++ cluster ++ distribution ++ sorting ++
    having ++ windows ++ (← connectBy g r)

/-- Reads a `SELECT` after its keyword. -/
def select (g : Grammar) (r : Nested) : Parser Select := do
  let opening ← selectOpening g r
  let items ← separated (trailingItems g) (item g r)
  let target ← selectTarget g
  let relations ← if ← keyword "FROM" then sources g r else pure []
  return .mk opening items target relations (← selectClauses g r)

/-! ## Bodies -/

/-- How tightly a set operator binds. -/
def setStrength (operator : String) : Nat := if operator == "INTERSECT" then 20 else 10

/-- The set operator that comes next. -/
def peekSetOperator : Parser (Option String) := do
  match (← peek).bind Lexeme.keyword? with
  | some k => return if ["UNION", "EXCEPT", "INTERSECT"].contains k then some k else none
  | none => return none

/-- Reads the words after a set operator. -/
def setQuantifier : Parser String := do
  if ← keywords ["DISTINCT", "BY", "NAME"] then return " DISTINCT BY NAME"
  else if ← keywords ["BY", "NAME"] then return " BY NAME"
  else if ← keywords ["ALL", "BY", "NAME"] then return " ALL BY NAME"
  else if ← keyword "ALL" then return " ALL"
  else if ← keyword "DISTINCT" then return " DISTINCT"
  else return ""

/-- Reads a table as a body after its keyword. The name of the table ends with the third lexeme,
whatever the second and the third are. -/
def tableBody : Parser Body := do
  let ls ← get
  set (ls.drop 3)
  match ls with
  | .word schema _ :: .symbol "." :: .word table _ :: _ =>
    return .phrase ("TABLE " ++ schema.value ++ "." ++ table.value)
  | _ :: .symbol "." :: _ => fail
  | .word table _ :: _ => return .phrase ("TABLE " ++ table.value)
  | _ => fail

/-- Reads an operand of set operators. -/
def bodyOperand (g : Grammar) (r : Nested) : Parser Body := do
  if ← keyword "SELECT" then return .select (← select g r)
  else if ← symbol "(" then
    let q ← r.query
    expect ")"
    return .query q
  else if ← keyword "VALUES" then return .phrase (← valuesPhrase g r (g == .mysql))
  else if ← keyword "TABLE" then tableBody
  else fail

/-- Reads set operators that bind more tightly than a strength, with the operands after them. -/
def bodyFrom (g : Grammar) (r : Nested) : Nat → Nat → Option Body → Parser Body
  | 0, _, _ => fail
  | fuel + 1, strength, left => do
    match left with
    | none => bodyFrom g r fuel strength (some (← bodyOperand g r))
    | some left =>
      match ← peekSetOperator with
      | none => return left
      | some operator =>
        if setStrength operator ≤ strength then return left
        skip
        let quantifier ← setQuantifier
        let right ← bodyFrom g r fuel (setStrength operator) none
        bodyFrom g r fuel strength (some (.setOperation left (operator ++ quantifier) right))

/-- Reads the body of a query. -/
def body (g : Grammar) (r : Nested) : Parser Body := do
  bodyFrom g r (2 * (← get).length + 2) 0 none

/-! ## Queries -/

/-- Reads a common table expression. -/
def cte (g : Grammar) (r : Nested) : Parser Cte := do
  let name ← ident
  let columns ← if ← peekKeyword "AS" then pure [] else aliasColumns g
  expectKeyword "AS"
  let materialized ←
    if g == .postgres then
      if ← keyword "MATERIALIZED" then pure "MATERIALIZED "
      else if ← keywords ["NOT", "MATERIALIZED"] then pure "NOT MATERIALIZED "
      else pure ""
    else pure ""
  let q ← parenthesized r.query
  return .mk ⟨name, columns⟩ materialized q (← after "FROM" ident)

/-- The window of rows that a query asks for. -/
structure Page where
  limit : Option Expr := none
  offset : Option Expr := none
  unit : OffsetUnit := .none

/-- Reads a limit, which may be all. -/
def limitCount (r : Nested) : Parser (Option Expr) := do
  if ← keyword "ALL" then return none else some <$> anyExpr r

/-- Reads a limit that is written, if it comes next and is not all. -/
def limitClause (r : Nested) : Parser Phrase := do
  unless ← keyword "LIMIT" do return []
  match ← limitCount r with
  | some e => return " LIMIT " ++ e
  | none => return []

/-- Reads a limit and an offset, each if it comes next and was not there before. Two numbers after
a limit are the offset and the limit. -/
def pageRound (g : Grammar) (r : Nested) (p : Page) : Parser Page := do
  let p ← if ← onlyIf p.limit.isNone (keyword "LIMIT") then
      pure { p with limit := ← limitCount r }
    else pure p
  let p ← if ← onlyIf p.offset.isNone (keyword "OFFSET") then do
      let offset ← anyExpr r
      let unit ← do
        match ← oneOf ["ROW", "ROWS"] with
        | some "ROW" => pure OffsetUnit.row
        | some _ => pure OffsetUnit.rows
        | none => pure OffsetUnit.none
      pure { p with offset := some offset, unit }
    else pure p
  let commaAllowed := (g == .mysql || g == .generic) && p.limit.isSome && p.offset.isNone
  if ← onlyIf commaAllowed (symbol ",") then
    return { limit := some (← anyExpr r), offset := p.limit, unit := .none }
  else return p

/-- Reads a `FETCH` clause, if there is one. -/
def fetchClause (g : Grammar) : Parser (Option FetchStyle × Option Expr) := do
  unless ← keyword "FETCH" do return (none, none)
  let _ ← expectOneOf ["FIRST", "NEXT"]
  let (count, percent) ←
    if (← oneOf ["ROW", "ROWS"]).isSome then pure (none, false)
    else do
      let count ← value g
      let percent ← keyword "PERCENT"
      let _ ← expectOneOf ["ROW", "ROWS"]
      pure (some (Expr.value count), percent)
  if ← keyword "ONLY" then return (some ⟨percent, false⟩, count)
  expectKeywords ["WITH", "TIES"]
  return (some ⟨percent, true⟩, count)

/-- Reads the interpolations of an order with gaps, if there are any. -/
def interpolations (g : Grammar) (r : Nested) : Parser Phrase := do
  unless ← onlyIf (g == .generic) (keyword "INTERPOLATE") do return []
  unless ← symbol "(" do return " INTERPOLATE"
  let columns ← separatedOrNone (trailingCommas g)
    (do let name ← ident; return name ++ (← exprClause "AS" r)) ")"
  expect ")"
  return " INTERPOLATE (" ++ commas columns ++ ")"

/-- Reads the order of a query without its keywords, if there is one. -/
def queryOrder (g : Grammar) (r : Nested) : Parser Phrase := do
  unless ← keywords ["ORDER", "BY"] do return []
  let keys ← sortKeys g r
  return keys ++ (← interpolations g r)

/-- Reads a string in parentheses, if there is one. -/
def nestedString (g : Grammar) : Parser String := do
  unless ← symbol "(" do return ""
  let s ← literalString g
  expect ")"
  return "(" ++ plainQuoted s ++ ")"

/-- Reads the name of a root element. -/
def rootName (g : Grammar) : Parser String := do
  return plainQuoted (← parenthesized (literalString g))

/-- What is said about rows as a document. -/
structure DocumentOptions where
  elements : Bool := false
  binary : Bool := false
  type : Bool := false
  root : Option String := none
  includeNulls : Bool := false
  noWrapper : Bool := false

/-- Reads options of rows as a document, each after a comma. -/
def documentOptions (g : Grammar) (xml : Bool) : Nat → DocumentOptions → Parser DocumentOptions
  | 0, _ => fail
  | fuel + 1, o => do
    unless ← symbol "," do return o
    if ← keyword "ROOT" then documentOptions g xml fuel { o with root := some (← rootName g) }
    else if ← onlyIf xml (keyword "ELEMENTS") then
      documentOptions g xml fuel { o with elements := true }
    else if ← onlyIf xml (keyword "BINARY") then
      expectKeyword "BASE64"
      documentOptions g xml fuel { o with binary := true }
    else if ← onlyIf xml (keyword "TYPE") then documentOptions g xml fuel { o with type := true }
    else if ← onlyIf (!xml) (keyword "INCLUDE_NULL_VALUES") then
      documentOptions g xml fuel { o with includeNulls := true }
    else if ← onlyIf (!xml) (keyword "WITHOUT_ARRAY_WRAPPER") then
      documentOptions g xml fuel { o with noWrapper := true }
    else documentOptions g xml fuel o

/-- The text of the options of rows as a document. -/
def DocumentOptions.text (o : DocumentOptions) : String :=
  (if o.binary then ", BINARY BASE64" else "") ++ (if o.type then ", TYPE" else "") ++
    (o.root.elim "" fun root => ", ROOT(" ++ root ++ ")") ++
    (if o.elements then ", ELEMENTS" else "") ++
    (if o.includeNulls then ", INCLUDE_NULL_VALUES" else "") ++
    if o.noWrapper then ", WITHOUT_ARRAY_WRAPPER" else ""

/-- Reads how rows are given out, after `FOR`; none if it is not said. -/
def forClause (g : Grammar) : Parser (Option String) := do
  if ← keyword "XML" then
    let mode ← do
      match ← expectOneOf ["RAW", "AUTO", "EXPLICIT", "PATH"] with
      | "RAW" => pure ("RAW" ++ (← nestedString g))
      | "PATH" => pure ("PATH" ++ (← nestedString g))
      | k => pure k
    let o ← documentOptions g true ((← get).length + 1) {}
    return some ("FOR XML " ++ mode ++ o.text)
  else if ← keyword "JSON" then
    let mode ← expectOneOf ["AUTO", "PATH"]
    let o ← documentOptions g false ((← get).length + 1) {}
    return some ("FOR JSON " ++ mode ++ o.text)
  else if ← keyword "BROWSE" then return some "FOR BROWSE"
  else return none

/-- Reads a lock after `FOR`. -/
def lock (g : Grammar) : Parser String := do
  let kind ← expectOneOf ["UPDATE", "SHARE"]
  let table ← if ← keyword "OF" then pure (" OF " ++ nameText (← objectName g)) else pure ""
  let waiting ←
    if ← keyword "NOWAIT" then pure " NOWAIT"
    else if ← keywords ["SKIP", "LOCKED"] then pure " SKIP LOCKED"
    else pure ""
  return "FOR " ++ kind ++ table ++ waiting

/-- Reads locks and how rows are given out, which ends them. -/
def locksFrom (g : Grammar) : Nat → Parser String
  | 0 => fail
  | fuel + 1 => do
    unless ← keyword "FOR" do return ""
    match ← forClause g with
    | some text => return " " ++ text
    | none =>
      let l ← lock g
      return " " ++ l ++ (← locksFrom g fuel)

/-- Reads what ends a query. -/
def queryClosing (g : Grammar) : Parser String := do
  let locks ← locksFrom g ((← get).length + 1)
  if ← onlyIf (g == .generic) (keyword "FORMAT") then
    if ← keyword "NULL" then return locks ++ " FORMAT NULL"
    else return locks ++ " FORMAT " ++ (← ident).text
  else return locks

/-- Reads what follows the body of a query. -/
def queryTail (g : Grammar) (r : Nested) (recursive : Bool) (ctes : List Cte) (b : Body) :
    Parser Query := do
  let order ← queryOrder g r
  let page ← pageRound g r (← pageRound g r {})
  let groups ← if g == .generic then clause ["BY"] (exprListPhrase g r) else pure []
  let settings ← settings g
  let (fetch, fetched) ← fetchClause g
  return .mk recursive ctes b order page.limit page.offset page.unit
    (groups ++ afterText " " settings) fetch fetched (← queryClosing g)

/-- Reads a query of one level. A command that changes rows may be the body of one. -/
def queryLevel (g : Grammar) (r : Nested) (insert update : Parser Phrase) : Parser Query := do
  let withClause ← keyword "WITH"
  let recursive ← if withClause then keyword "RECURSIVE" else pure false
  let ctes ← if withClause then separated (trailingCommas g) (cte g r) else pure []
  let command (parts : Phrase) : Query :=
    .mk recursive ctes (.phrase parts) [] none none .none [] none none ""
  if ← keyword "INSERT" then return command (← insert)
  else if ← keyword "UPDATE" then return command (← update)
  else queryTail g r recursive ctes (← body g r)

end DatasetSql.Statement.Parser
