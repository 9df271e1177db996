import DatasetSql.Statement.Parser.Nested

/-!
# Reading sort keys, intervals and windows

What a window is made of: the keys that its rows are sorted by, the intervals that bound its frame,
and the frame itself.
-/

namespace DatasetSql.Statement.Parser

/-! ## Sort keys -/

/-- Reads how a sorted column with gaps is filled, if it is said. -/
def withFill (g : Grammar) (r : Nested) : Parser Phrase := do
  if ← onlyIf (g == .generic) (keywords ["WITH", "FILL"]) then
    let low ← exprClause "FROM" r
    let high ← exprClause "TO" r
    return " WITH FILL" ++ low ++ high ++ (← exprClause "STEP" r)
  else return []

/-- Reads a sort key. -/
def sortKey (g : Grammar) (r : Nested) : Parser Phrase := do
  let e ← anyExpr r
  let direction ← choice ["ASC", "DESC"]
  let nulls ← firstFlag [["NULLS", "FIRST"], ["NULLS", "LAST"]]
  return e ++ direction ++ nulls ++ (← withFill g r)

/-- Reads sort keys between commas. -/
def sortKeys (g : Grammar) (r : Nested) : Parser Phrase := list g (sortKey g r)

/-- Reads sort keys after `ORDER BY`, if it comes next. -/
def orderClause (g : Grammar) (r : Nested) : Parser Phrase := clause ["ORDER", "BY"] (sortKeys g r)

/-! ## Intervals -/

/-- The names of parts of a date. -/
def dateFields : List String :=
  ["YEAR", "MONTH", "WEEK", "DAY", "DAYOFWEEK", "DAYOFYEAR", "DATE", "DATETIME", "HOUR", "MINUTE",
    "SECOND", "CENTURY", "DECADE", "DOY", "DOW", "EPOCH", "ISODOW", "ISOYEAR", "ISOWEEK", "JULIAN",
    "MICROSECOND", "MICROSECONDS", "MILLENIUM", "MILLENNIUM", "MILLISECOND", "MILLISECONDS",
    "NANOSECOND", "NANOSECONDS", "QUARTER", "TIME", "TIMEZONE", "TIMEZONE_ABBR", "TIMEZONE_HOUR",
    "TIMEZONE_MINUTE", "TIMEZONE_REGION"]

/-- The parts of a date that an interval is measured in. -/
def intervalFields : List String :=
  ["YEAR", "MONTH", "WEEK", "DAY", "HOUR", "MINUTE", "SECOND", "CENTURY", "DECADE", "DOW", "DOY",
    "EPOCH", "ISODOW", "ISOYEAR", "JULIAN", "MICROSECOND", "MICROSECONDS", "MILLENIUM",
    "MILLENNIUM", "MILLISECOND", "MILLISECONDS", "NANOSECOND", "NANOSECONDS", "QUARTER",
    "TIMEZONE", "TIMEZONE_HOUR", "TIMEZONE_MINUTE"]

/-- Whether parts of a date may have any name, also in quotes. -/
def customFields (g : Grammar) : Bool := g == .generic || g == .postgres || g == .snowflake

/-- Reads a part of a date. -/
def dateField (g : Grammar) : Parser String := do
  let l ← next
  let k := l.keyword?.getD ""
  if dateFields.contains k then
    if ← onlyIf (k == "WEEK" && (g == .bigquery || g == .generic)) (symbol "(") then
      let day ← ident
      expect ")"
      return "WEEK(" ++ day.text ++ ")"
    else return k
  else if customFields g then
    match l with
    | .word i _ => return i.text
    | .literal (.string s) => return quoted '\'' s
    | _ => fail
  else fail

/-- Whether an interval is an expression with a unit after it. -/
def unitRequired (g : Grammar) : Bool := g == .mysql || g == .bigquery

/-- A precision after a part of a date. -/
def spaced (s : String) : String := if s.isEmpty then "" else " " ++ s

/-- Reads what follows the value of an interval. -/
def intervalQualifier (g : Grammar) : Parser String := do
  let unit := (← peek).bind Lexeme.keyword?
  let leading ←
    if unit.any intervalFields.contains then dateField g
    else if unitRequired g then fail
    else pure ""
  if leading == "SECOND" then
    unless ← symbol "(" do return " SECOND"
    let n ← natural
    let fraction ← if ← symbol "," then pure (", " ++ toString (← natural)) else pure ""
    expect ")"
    return " SECOND (" ++ toString n ++ fraction ++ ")"
  else
    let n ← precision
    let start := spaced leading ++ spaced n
    unless ← keyword "TO" do return start
    let last ← dateField g
    let fraction ← if last == "SECOND" then precision else pure ""
    return start ++ " TO " ++ last ++ spaced fraction

/-- Reads an interval after its keyword; its value is an operand unless a unit must follow. -/
def interval (g : Grammar) (r : Nested) (operand : Parser Expr) : Parser Expr := do
  let e ← if unitRequired g then anyExpr r else operand
  return loose ("INTERVAL " ++ e ++ (← intervalQualifier g))

/-! ## Windows -/

/-- Reads one end of a frame. -/
def frameBound (r : Nested) (intervalOf : Parser Expr) : Parser Phrase := do
  if ← keywords ["CURRENT", "ROW"] then return "CURRENT ROW"
  let offset : Phrase ←
    if ← keyword "UNBOUNDED" then pure ("UNBOUNDED" : Phrase)
    else if (← peek) matches some (.literal (.string _)) then do pure ((← intervalOf) : Phrase)
    else exprPhrase r
  return offset ++ " " ++ (← expectOneOf ["PRECEDING", "FOLLOWING"])

/-- Reads a frame. -/
def frame (r : Nested) (intervalOf : Parser Expr) : Parser Phrase := do
  let unit ← expectOneOf ["ROWS", "RANGE", "GROUPS"]
  if ← keyword "BETWEEN" then
    let start ← frameBound r intervalOf
    expectKeyword "AND"
    return unit ++ " BETWEEN " ++ start ++ " AND " ++ (← frameBound r intervalOf)
  else return unit ++ " " ++ (← frameBound r intervalOf)

/-- Reads the rest of a window after its opening parenthesis. -/
def windowSpec (g : Grammar) (r : Nested) (intervalOf : Parser Expr) : Parser Phrase := do
  let base : Phrase ←
    if (← peek).any Lexeme.isPlainWord then do pure ((← ident) : Phrase) else pure []
  let partition ← opened ["PARTITION", "BY"] (exprListPhrase g r)
  let order ← opened ["ORDER", "BY"] (sortKeys g r)
  let frame ← if ← peekSymbol ")" then pure [] else frame r intervalOf
  expect ")"
  return "(" ++ sentence [base, partition, order, frame] ++ ")"

end DatasetSql.Statement.Parser
