import DatasetSql.Statement.Parser.Window

/-!
# Reading calls

The arguments of a call with the clauses that may stand between its parentheses, and what may
follow them.
-/

namespace DatasetSql.Statement.Parser

/-! ## Wildcards -/

/-- An expression, or a wildcard with the name of its relation. -/
inductive Item where
  | expr (e : Expr)
  | wildcard (table : ObjectName)

/-- The text of a wildcard. -/
def wildcardText (table : ObjectName) : String :=
  if table.isEmpty then "*" else nameText table ++ ".*"

/-- An expression that may be a wildcard. -/
def Item.toExpr : Item → Expr
  | .expr e => e
  | .wildcard table => loose (wildcardText table)

/-- Reads the dots and names after a first name, up to a wildcard. -/
def dottedWildcard : Nat → List Ident → Parser (Option ObjectName)
  | 0, _ => fail
  | fuel + 1, parts => do
    unless ← symbol "." do return none
    match ← next with
    | .word i _ => dottedWildcard fuel (parts ++ [i])
    | .literal (.string s) => dottedWildcard fuel (parts ++ [⟨s, some '\''⟩])
    | .symbol "*" => return some parts
    | _ => fail

/-- Reads the wildcard of a relation, given the first part of its name; otherwise an expression. -/
def qualifiedWildcard (r : Nested) (i : Ident) : Parser Item := do
  let start ← get
  skip
  match ← dottedWildcard start.length [i] with
  | some table => return .wildcard table
  | none => set start; .expr <$> anyExpr r

/-- Reads an expression or a wildcard. -/
def exprOrWildcard (r : Nested) : Parser Item := do
  match ← get with
  | .symbol "*" :: rest => set rest; return .wildcard []
  | .word i _ :: .symbol "." :: _ => qualifiedWildcard r i
  | .literal (.string s) :: .symbol "." :: _ => qualifiedWildcard r ⟨s, some '\''⟩
  | _ => .expr <$> anyExpr r

/-! ## Arguments -/

/-- The operators that may stand between the name and the value of an argument. -/
def argumentOperators (g : Grammar) : List String :=
  match g with
  | .duckdb => ["=>", "=", ":="]
  | .generic => ["=>", ":="]
  | .postgres => ["=>", ":"]
  | .tsql => [":"]
  | _ => ["=>"]

/-- Reads the operator of a named argument. -/
def argumentOperator (g : Grammar) : Parser String := do
  if ← keyword "VALUE" then return "VALUE"
  match ← next with
  | .symbol s => if (argumentOperators g).contains s then return s else fail
  | _ => fail

/-- Reads an argument of a call. In some grammars its name may be any expression. -/
def argument (g : Grammar) (r : Nested) : Parser Phrase := do
  let named : Option Phrase ← maybe do
    let name : Phrase ←
      if g == .tsql || g == .postgres then exprPhrase r else do pure ((← ident) : Phrase)
    let operator ← argumentOperator g
    return name ++ " " ++ operator ++ " " ++ (← exprOrWildcard r).toExpr
  match named with
  | some phrase => return phrase
  | none => return (← exprOrWildcard r).toExpr

/-- Reads a setting and its value. -/
def setting (g : Grammar) : Parser Phrase := do
  let key ← ident
  expect "="
  return key ++ " = " ++ (← value g)

/-- Reads settings, if they come next. -/
def settings (g : Grammar) : Parser Phrase := do
  if ← onlyIf (g == .generic) (keyword "SETTINGS") then
    return "SETTINGS " ++ (← list g (setting g))
  else return []

/-- Reads arguments up to a closing parenthesis, if there are any; the parentheses are written. -/
def arguments (g : Grammar) (r : Nested) : Parser Phrase := do
  if ← symbol ")" then return "()"
  let args ← list g (argument g r)
  expect ")"
  return "(" ++ args ++ ")"

/-- Reads arguments of a table function that settings may end, at most so many. -/
def argumentsWithSettings (g : Grammar) (r : Nested) : Nat → Parser (List Phrase)
  | 0 => fail
  | fuel + 1 => do
    match ← settings g with
    | [] =>
      let first ← argument g r
      unless ← symbol "," do return [first]
      if trailingCommas g && endsList (← peek) then return [first]
      return first :: (← argumentsWithSettings g r fuel)
    | phrase => return [phrase]

/-- Reads the arguments of a table function up to a closing parenthesis. -/
def tableArguments (g : Grammar) (r : Nested) : Parser Phrase := do
  if ← symbol ")" then return "()"
  let args ← argumentsWithSettings g r ((← get).length + 1)
  expect ")"
  return "(" ++ commas args ++ ")"

/-! ## Clauses between the parentheses -/

/-- Reads `IGNORE NULLS` or `RESPECT NULLS`, if it comes next. -/
def nullTreatment : Parser Phrase := do
  match ← oneOf ["RESPECT", "IGNORE"] with
  | some k => expectKeyword "NULLS"; return (" " ++ k ++ " NULLS" : String)
  | none => return []

/-- Reads what happens to nulls in a document, if it is said. -/
def jsonNulls : Parser String := do
  if ← keywords ["ABSENT", "ON", "NULL"] then return "ABSENT ON NULL"
  else if ← keywords ["NULL", "ON", "NULL"] then return "NULL ON NULL"
  else return ""

/-- Reads what happens if a text grows too long, if it is said. -/
def overflow (r : Nested) : Parser Phrase := do
  unless ← keywords ["ON", "OVERFLOW"] do return []
  if ← keyword "ERROR" then return " ON OVERFLOW ERROR"
  expectKeyword "TRUNCATE"
  let filler : Phrase ← match ← peek with
    | some (.literal (.string _)) | some (.literal (.escaped _)) | some (.literal (.numbered _)) =>
      pure (" " ++ (← anyExpr r) : Phrase)
    | some (.literal (.marked mark _ _ _)) =>
      if mark == .national || mark == .hexadecimal then pure (" " ++ (← anyExpr r) : Phrase) else fail
    | some l => if l.isKeyword "WITH" || l.isKeyword "WITHOUT" then pure [] else fail
    | none => fail
  let counted ← expectOneOf ["WITH", "WITHOUT"]
  expectKeyword "COUNT"
  return " ON OVERFLOW TRUNCATE" ++ filler ++ " " ++ counted ++ " COUNT"

/-- Reads which rows a value is taken from, if it is said. -/
def havingBound (g : Grammar) (r : Nested) : Parser Phrase := do
  if ← onlyIf (g == .generic || g == .bigquery) (keyword "HAVING") then
    let bound ← expectOneOf ["MIN", "MAX"]
    return " HAVING " ++ bound ++ " " ++ (← anyExpr r)
  else return []

/-- Reads what stands between joined values, if it is said. -/
def separator (g : Grammar) : Parser Phrase := do
  if ← onlyIf (g == .generic || g == .mysql) (keyword "SEPARATOR") then
    return " SEPARATOR " ++ (← value g)
  else return []

/-- Whether the treatment of nulls may stand between the parentheses. -/
def nullsInside (g : Grammar) : Bool := g == .bigquery || g == .generic || g == .snowflake

/-- Reads what stands between the parentheses of a call and the closing one; tells whether the
treatment of nulls was said there. -/
def callArgs (g : Grammar) (r : Nested) : Parser (Phrase × Bool) := do
  let first ← jsonNulls
  if ← symbol ")" then return ("(" ++ first ++ ")", false)
  let all ← keyword "ALL"
  let distinct ← keyword "DISTINCT"
  if all && distinct then fail
  let args ← list g (argument g r)
  let nulls ← if nullsInside g then nullTreatment else pure []
  let order ← orderClause g r
  let limit ← exprClause "LIMIT" r
  let bound ← havingBound g r
  let separator ← separator g
  let overflow ← overflow r
  let last ← jsonNulls
  expect ")"
  let duplicates := if all then "ALL " else if distinct then "DISTINCT " else ""
  return ("(" ++ duplicates ++ args ++ spaced first ++ nulls ++ order ++ limit ++ bound ++
    separator ++ overflow ++ spaced last ++ ")", !nulls.isEmpty)

/-! ## What follows the arguments -/

/-- Reads a filter of the rows that are called on, if there is one. -/
def callFilter (g : Grammar) (r : Nested) : Parser Phrase := do
  unless ← onlyIf (g == .postgres || g == .duckdb) (keyword "FILTER") do return []
  unless ← symbol "(" do return []
  unless ← keyword "WHERE" do return []
  let e ← anyExpr r
  expect ")"
  return " FILTER (WHERE " ++ e ++ ")"

/-- Reads the window that a call ranges over, if there is one. -/
def overWindow (g : Grammar) (r : Nested) (intervalOf : Parser Expr) : Parser Phrase := do
  unless ← keyword "OVER" do return []
  if ← symbol "(" then return " OVER " ++ (← windowSpec g r intervalOf)
  else return " OVER " ++ (← ident)

/-- Reads a call after its name. -/
def callTail (g : Grammar) (r : Nested) (intervalOf : Parser Expr) : Parser Phrase := do
  expect "("
  if ← onlyIf (g == .snowflake) peekQuery then
    let q ← r.query
    expect ")"
    return "(" ++ q ++ ")"
  let (first, nullsSaid) ← callArgs g r
  let (args, nullsSaid) ←
    if ← onlyIf (g == .generic) (symbol "(") then do
      let (second, nullsSaid) ← callArgs g r
      pure (first ++ second, nullsSaid)
    else pure (first, nullsSaid)
  let group : Phrase ←
    if ← keywords ["WITHIN", "GROUP"] then do
      let keys ← parenthesized do expectKeywords ["ORDER", "BY"]; sortKeys g r
      pure (seenLate (" WITHIN GROUP (ORDER BY " ++ keys ++ ")"))
    else pure []
  let filter ← callFilter g r
  let nulls ← if nullsSaid then pure [] else nullTreatment
  return args ++ group ++ filter ++ nulls ++ (← overWindow g r intervalOf)

/-- Reads a call after its name. -/
def call (g : Grammar) (r : Nested) (intervalOf : Parser Expr) (name : ObjectName) :
    Parser Expr :=
  .call name <$> callTail g r intervalOf

end DatasetSql.Statement.Parser
