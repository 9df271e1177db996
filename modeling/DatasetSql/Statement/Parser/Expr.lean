import DatasetSql.Statement.Parser.Operand

/-!
# Reading expressions

An expression is an operand followed by operators that bind more tightly than what stands before
it.
-/

namespace DatasetSql.Statement.Parser

/-! ## Binary operators -/

/-- Operators that every grammar has. -/
def commonSymbols : List String :=
  ["=", "<", "<=", "<>", ">", ">=", "<=>", "+", "-", "*", "/", "%", "||", "|", "^", "&", "~", "~*",
    "!~", "!~*", "~~", "~~*", "!~~", "!~~*"]

/-- The spelling of an operator that is a symbol, if the grammar has it. -/
def binarySymbol? (g : Grammar) (s : String) : Option String :=
  if s == "==" then some "="
  else if commonSymbols.contains s || otherSymbols.contains s then some s
  else
    let known : Bool := match s with
      | "//" => g.integerDivision
      | "<<" | ">>" => g == .postgres || g == .duckdb || g == .generic
      | "#" => g == .postgres
      | "&&" | "^@" => g == .postgres || g == .generic
      | _ => false
    if known then some s else none

/-- Reads the names in an `OPERATOR`, which may be anything between dots. -/
def operatorNames : Nat → Parser (List String)
  | 0 => fail
  | fuel + 1 => do
    let name := (← next).text
    if ← symbol "." then return name :: (← operatorNames fuel) else return [name]

/-- Reads an operator between two operands, if one comes next. -/
def binaryOperator (g : Grammar) : Parser (Option String) := do
  match ← peek with
  | some (.symbol s) =>
    match binarySymbol? g s with
    | some operator => skip; return some operator
    | none => return none
  | some .hyphen => skip; return some "-"
  | some (.operator s) => skip; return some s
  | some l =>
    match l.keyword? with
    | some "AND" => skip; return some "AND"
    | some "OR" => skip; return some "OR"
    | some "XOR" => skip; return some "XOR"
    | some "OPERATOR" =>
      unless g == .postgres || g == .generic do return none
      skip
      let names ← parenthesized do operatorNames ((← get).length + 1)
      return some ("OPERATOR(" ++ Text.joined "." names ++ ")")
    | _ => return none
  | none => return none

/-- Operators that compare with every row or with some. -/
def quantifiable : List String := [">", "<", ">=", "<=", "=", "<>"]

/-- Reads the right operand of an operator. -/
def binaryExpr (r : Nested) (strength : Nat) (left : Expr) (operator : String) :
    Parser Expr := do
  match ← oneOf ["ANY", "ALL", "SOME"] with
  | some k =>
    let right ← if ← peekNestedQuery then r.expr strength else parenthesized (r.expr strength)
    unless quantifiable.contains operator do fail
    let right : Phrase := match right with
      | .subquery _ => right
      | _ => "(" ++ right ++ ")"
    return loose (left ++ " " ++ operator ++ " " ++ k ++ right)
  | none => return .binary left operator (← r.expr strength)

/-! ## Tests -/

/-- A negation before a word. -/
def notText (negated : Bool) : String := if negated then "NOT " else ""

/-- Reads the rest of an `IS` test. -/
def isExpr (r : Nested) (left : Expr) : Parser Expr := do
  let negated := notText (← keyword "NOT")
  match ← oneOf ["NULL", "TRUE", "FALSE", "UNKNOWN"] with
  | some k => return loose (left ++ " IS " ++ negated ++ k)
  | none =>
    expectKeywords ["DISTINCT", "FROM"]
    return loose (left ++ " IS " ++ negated ++ "DISTINCT FROM " ++ (← anyExpr r))

/-- Reads the rest of an `IN`. -/
def inExpr (g : Grammar) (r : Nested) (start : Phrase) : Parser Expr := do
  if ← keyword "UNNEST" then
    let e ← parenthesized (anyExpr r)
    return loose (start ++ "IN UNNEST(" ++ e ++ ")")
  parenthesized do
    if ← peekQuery then return loose (start ++ "IN (" ++ (← r.query) ++ ")")
    else return loose (start ++ "IN (" ++ (← exprListPhrase g r) ++ ")")

/-- Reads the pattern of a match and its escape character, if there is one. -/
def patternExpr (g : Grammar) (r : Nested) (start : Phrase) (words : String) : Parser Expr := do
  let pattern ← r.expr (g.strength .like)
  let escape : Phrase ←
    if ← keyword "ESCAPE" then do pure (" ESCAPE " ++ plainQuoted (← literalString g) : Phrase)
    else pure []
  return loose (start ++ words ++ " " ++ pattern ++ escape)

/-- Reads the rest of a test that may be negated. -/
def testExpr (g : Grammar) (r : Nested) (left : Expr) : Parser Expr := do
  let negated ← keyword "NOT"
  let start : Phrase := left ++ " " ++ notText negated
  let regexp ← keyword "REGEXP"
  let rlike ← keyword "RLIKE"
  if regexp || rlike then
    let words := if regexp then "REGEXP " else "RLIKE "
    return loose (start ++ words ++ (← r.expr (g.strength .like)))
  match ← expectOneOf ["IN", "BETWEEN", "LIKE", "ILIKE", "SIMILAR"] with
  | "IN" => inExpr g r start
  | "BETWEEN" =>
    let low ← r.expr (g.strength .between)
    expectKeyword "AND"
    let high ← r.expr (g.strength .between)
    return loose (start ++ "BETWEEN " ++ low ++ " AND " ++ high)
  | "SIMILAR" => expectKeyword "TO"; patternExpr g r start "SIMILAR TO"
  | k => patternExpr g r start (if ← keyword "ANY" then k ++ " ANY" else k)

/-! ## Elements -/

/-- Reads an index or a slice after the opening bracket. -/
def subscript (r : Nested) : Parser Phrase := do
  let (low, hasLow) ←
    if ← symbol ":" then pure (([] : Phrase), false) else do pure (← exprPhrase r, true)
  if ← symbol "]" then return if hasLow then low else ":"
  if hasLow then expect ":"
  if ← symbol "]" then return low ++ ":"
  let high ← anyExpr r
  if ← symbol "]" then return low ++ ":" ++ high
  expect ":"
  if ← symbol "]" then return low ++ ":" ++ high
  let stride ← anyExpr r
  expect "]"
  return low ++ ":" ++ high ++ ":" ++ stride

/-- Reads a key of a document path. -/
def pathKey : Parser String := do
  match ← next with
  | .word ⟨s, none⟩ _ => return s
  | .word ⟨s, some '"'⟩ _ | .literal (.doubleQuoted s) => return quoted '"' s
  | _ => fail

/-- Reads a step of a document path, if there is one; a colon can only stand before the first. -/
def pathStep (r : Nested) (first : Bool) : Parser (Option Phrase) := do
  if ← onlyIf first (symbol ":") then return some (":" ++ (← pathKey))
  else if ← onlyIf (!first) (symbol ".") then return some ("." ++ (← pathKey))
  else if ← symbol "[" then
    let key ← anyExpr r
    expect "]"
    return some ("[" ++ key ++ "]")
  else return none

/-- Reads a path into a document. -/
def documentPath (r : Nested) : Parser Phrase := do
  match ← pathStep r true with
  | some first => return first ++ (← many (pathStep r false)).flatten
  | none => fail

/-- Reads a further key of an element; in one grammar a dot and an expression may be one. -/
def elementKey (g : Grammar) (r : Nested) : Parser (Option Phrase) := do
  if ← symbol "[" then
    let key ← anyExpr r
    expect "]"
    return some ("[" ++ key ++ "]")
  else if ← onlyIf (g == .bigquery) (symbol ".") then return some ("." ++ (← anyExpr r))
  else return none

/-- Reads what follows an expression in brackets. -/
def elementExpr (g : Grammar) (r : Nested) (left : Expr) : Parser Expr := do
  match g with
  | .postgres | .duckdb | .generic =>
    skip
    return loose (left ++ "[" ++ (← subscript r) ++ "]")
  | .snowflake | .redshift => return loose (left ++ (← documentPath r))
  | _ => return loose (left ++ (← many (elementKey g r)).flatten)

/-! ## Expressions -/

/-- Reads an operator that is no ordinary one, with its right side. -/
def infixForm (g : Grammar) (r : Nested) (strength : Nat) (left : Expr) : Parser Expr := do
  match ← peek with
  | some (.symbol "::") =>
    skip
    return tight (left ++ "::" ++ (← dataType g))
  | some (.symbol "!") =>
    skip
    if g == .postgres then return loose (left ++ "!") else fail
  | some (.symbol "[") => elementExpr g r left
  | some (.symbol ":") => return loose (left ++ (← documentPath r))
  | some (.symbol _) => fail
  | some l =>
    match l.keyword? with
    | some "IS" => skip; isExpr r left
    | some "AT" =>
      expectKeywords ["AT", "TIME", "ZONE"]
      return loose (left ++ " AT TIME ZONE " ++ (← r.expr strength))
    | some "DIV" =>
      skip
      if g == .mysql then return .binary left "DIV" (← anyExpr r) else fail
    | _ => testExpr g r left
  | none => fail

/-- Reads the next operator and its right side. -/
def infixExpr (g : Grammar) (r : Nested) (strength : Nat) (left : Expr) : Parser Expr := do
  match ← binaryOperator g with
  | some operator => binaryExpr r strength left operator
  | none => infixForm g r strength left

/-- Reads operators that bind more tightly than a strength, at most so many. -/
def operatorsFrom (g : Grammar) (r : Nested) (strength : Nat) : Nat → Expr → Parser Expr
  | 0, e => return e
  | fuel + 1, e => do
    let found := nextStrength g (← get)
    if found ≤ strength then return e
    else operatorsFrom g r strength fuel (← infixExpr g r found e)

/-- Reads an expression of one level. -/
def exprLevel (g : Grammar) (r : Nested) (strength : Nat) : Parser Expr := do
  let e ← operand g r
  operatorsFrom g r strength ((← get).length + 1) e

end DatasetSql.Statement.Parser
