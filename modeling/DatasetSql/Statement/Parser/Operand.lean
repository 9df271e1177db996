import DatasetSql.Statement.Parser.Call

/-!
# Reading operands

An operand is a literal, a name, a call, something in brackets, or a form that a word of its own
opens. Where such a form cannot be read, the word may still be a name.
-/

namespace DatasetSql.Statement.Parser

/-! ## Forms with parentheses -/

/-- Reads the branches of a `CASE` after the first `WHEN`. The results are seen after all
conditions. -/
def caseBranches (r : Nested) : Nat → Parser Phrase
  | 0 => fail
  | fuel + 1 => do
    let condition ← anyExpr r
    expectKeyword "THEN"
    let result ← anyExpr r
    let branch : Phrase := " WHEN " ++ condition ++ " THEN " ++ seenLate result
    if ← keyword "WHEN" then return branch ++ (← caseBranches r fuel)
    else return branch

/-- Reads the rest of a `CASE`. -/
def caseExpr (r : Nested) : Parser Expr := do
  let operand : Phrase ←
    if ← keyword "WHEN" then pure []
    else do
      let e ← anyExpr r
      expectKeyword "WHEN"
      pure (" " ++ e : Phrase)
  let branches ← caseBranches r ((← get).length + 1)
  let otherwise : Phrase ←
    if ← keyword "ELSE" then do pure (seenLate (" ELSE " ++ (← anyExpr r))) else pure []
  expectKeyword "END"
  return tight ("CASE" ++ operand ++ branches ++ otherwise ++ " END")

/-- Reads the format of a cast, if there is one. -/
def castFormat (g : Grammar) : Parser Phrase := do
  unless ← keyword "FORMAT" do return []
  let format ← value g
  if ← keywords ["AT", "TIME", "ZONE"] then
    return " FORMAT " ++ format ++ " AT TIME ZONE " ++ (← value g)
  else return " FORMAT " ++ format

/-- Reads the rest of a cast. -/
def castExpr (g : Grammar) (r : Nested) (name : String) : Parser Expr :=
  parenthesized do
    let e ← anyExpr r
    expectKeyword "AS"
    let type ← dataType g
    return tight (name ++ "(" ++ e ++ " AS " ++ type ++ (← castFormat g) ++ ")")

/-- Reads the rest of a `CONVERT`; in some grammars the type stands first. -/
def convertExpr (g : Grammar) (r : Nested) (name : String) : Parser Expr :=
  parenthesized do
    if g == .tsql || g == .redshift then
      let type ← dataType g
      expect ","
      let e ← anyExpr r
      let styles : Phrase ←
        if ← symbol "," then do pure (", " ++ (← exprListPhrase g r) : Phrase) else pure []
      return loose (name ++ "(" ++ type ++ ", " ++ e ++ styles ++ ")")
    else
      let e ← anyExpr r
      if ← keyword "USING" then
        return loose (name ++ "(" ++ e ++ " USING " ++ (← objectName g) ++ ")")
      expect ","
      let type ← dataType g
      let charset ← clause ["CHARACTER", "SET"] do return (← objectName g)
      return loose (name ++ "(" ++ e ++ ", " ++ type ++ charset ++ ")")

/-- Reads the rest of an `EXTRACT`. -/
def extractExpr (g : Grammar) (r : Nested) : Parser Expr :=
  parenthesized do
    let field ← dateField g
    if ← keyword "FROM" then return loose ("EXTRACT(" ++ field ++ " FROM " ++ (← anyExpr r) ++ ")")
    expect ","
    unless g == .snowflake || g == .generic do fail
    return loose ("EXTRACT(" ++ field ++ ", " ++ (← anyExpr r) ++ ")")

/-- Reads the rest of a `CEIL` or `FLOOR`. -/
def roundingExpr (g : Grammar) (r : Nested) (name : String) : Parser Expr :=
  parenthesized do
    let e ← anyExpr r
    let detail : Phrase ←
      if ← keyword "TO" then do pure (" TO " ++ (← dateField g) : Phrase)
      else if ← symbol "," then do
        match ← value g with
        | v@(.number ..) => pure (", " ++ v : Phrase)
        | _ => fail
      else pure []
    return loose (name ++ "(" ++ e ++ detail ++ ")")

/-- Reads the rest of a `POSITION`, which is an ordinary call if no `IN` follows its operand. -/
def positionExpr (g : Grammar) (r : Nested) (ordinary : Parser Expr) : Parser Expr := do
  let special ← maybe <| parenthesized do
    let e ← r.expr (g.strength .between)
    expectKeyword "IN"
    return loose ("POSITION(" ++ e ++ " IN " ++ (← anyExpr r) ++ ")")
  match special with
  | some e => return e
  | none => ordinary

/-- Reads the rest of a `SUBSTRING`. -/
def substringExpr (r : Nested) : Parser Expr :=
  parenthesized do
    let e ← anyExpr r
    let comma ← symbol ","
    let hasStart ← if comma then pure true else keyword "FROM"
    let start : Phrase ←
      if hasStart then do
        pure ((if comma then ", " else " FROM ") ++ (← anyExpr r) : Phrase)
      else pure []
    let hasLength ← if ← keyword "FOR" then pure true else symbol ","
    let length : Phrase ←
      if hasLength then do
        pure ((if comma then ", " else " FOR ") ++ (← anyExpr r) : Phrase)
      else pure []
    return loose ("SUBSTRING(" ++ e ++ start ++ length ++ ")")

/-- Reads the rest of an `OVERLAY`. -/
def overlayExpr (r : Nested) : Parser Expr :=
  parenthesized do
    let e ← anyExpr r
    expectKeyword "PLACING"
    let what ← anyExpr r
    expectKeyword "FROM"
    let start ← anyExpr r
    let length ← exprClause "FOR" r
    return loose ("OVERLAY(" ++ e ++ " PLACING " ++ what ++ " FROM " ++ start ++ length ++ ")")

/-- Reads the rest of a `TRIM`. What is trimmed is seen before what is trimmed off. -/
def trimExpr (g : Grammar) (r : Nested) : Parser Expr :=
  parenthesized do
    let side : String ← do
      match ← oneOf ["BOTH", "LEADING", "TRAILING"] with
      | some k => pure (k ++ " ")
      | none => pure ""
    let e ← anyExpr r
    if ← keyword "FROM" then
      return loose ("TRIM(" ++ side ++ seenLate e ++ " FROM " ++ (← anyExpr r) ++ ")")
    if ← symbol "," then
      if g == .snowflake || g == .bigquery || g == .generic then
        return loose ("TRIM(" ++ e ++ ", " ++ (← exprListPhrase g r) ++ ")")
    return loose ("TRIM(" ++ side ++ e ++ ")")

/-- Reads a query in parentheses after some words. -/
def subqueryAfter (r : Nested) (words : String) : Parser Expr :=
  parenthesized do return loose (words ++ " (" ++ (← r.query) ++ ")")

/-- Reads how a text is searched, if it is said. -/
def searchMode : Parser Phrase := do
  if ← keywords ["IN", "NATURAL", "LANGUAGE", "MODE"] then
    return " IN NATURAL LANGUAGE MODE" ++ (← flag ["WITH", "QUERY", "EXPANSION"])
  else firstFlag [["IN", "BOOLEAN", "MODE"], ["WITH", "QUERY", "EXPANSION"]]

/-- Reads the rest of a `MATCH`. -/
def matchAgainst (g : Grammar) : Parser Expr := do
  let columns ← identList g
  expectKeyword "AGAINST"
  expect "("
  let v ← value g
  let mode ← searchMode
  expect ")"
  return loose ("MATCH " ++ columnsText columns ++ " AGAINST (" ++ v ++ mode ++ ")")

/-! ## Collections -/

/-- Reads the rest of an array up to its closing bracket. -/
def arrayExpr (g : Grammar) (r : Nested) (opening : String) : Parser Expr := do
  let es ← separatedOrNone (trailingCommas g) (anyExpr r) "]"
  expect "]"
  return loose (opening ++ exprList es ++ "]")

/-- Reads a value of a structure; a name may follow it unless the fields have types. -/
def structValue (r : Nested) (typed : Bool) : Parser Phrase := do
  let e ← anyExpr r
  if ← keyword "AS" then
    if typed then fail
    return e ++ " AS " ++ (← ident)
  else return e

/-- Reads a structure after its keyword. -/
def structExpr (g : Grammar) (r : Nested) : Parser Expr := do
  let (fields, closed) ← structFields (openType g)
  if closed then fail
  let values ← inParens (list g (structValue r (!fields.isEmpty)))
  return loose (structText fields ++ values)

/-- Reads an entry of a map or a dictionary, given how its key is read. -/
def entry (r : Nested) (key : Parser Phrase) : Parser Phrase := do
  let k ← key
  expect ":"
  return k ++ ": " ++ (← anyExpr r)

/-- Reads a map after its keyword. -/
def mapExpr (g : Grammar) (r : Nested) : Parser Expr := do
  expect "\x7b"
  let entries ← separatedOrNone (trailingCommas g) (entry r (exprPhrase r)) "\x7d"
  expect "\x7d"
  return loose ("MAP \x7b" ++ commas entries ++ "\x7d")

/-- Reads a dictionary after its opening brace. -/
def dictionaryExpr (g : Grammar) (r : Nested) : Parser Expr := do
  let entries ← separatedOrNone (trailingCommas g) (entry r do return (← ident)) "\x7d"
  expect "\x7d"
  return loose ("\x7b" ++ commas entries ++ "\x7d")

/-- Whether a brace opens a dictionary. -/
def hasDictionaries (g : Grammar) : Bool := g == .duckdb || g == .generic || g == .snowflake

/-- Reads a call or a dictionary in braces, after the opening one. -/
def bracedExpr (g : Grammar) (r : Nested) (intervalOf : Parser Expr) : Parser Expr := do
  let braced ← maybe do
    expectKeyword "FN"
    call g r intervalOf (← objectName g)
  match braced with
  | some e =>
    expect "\x7d"
    return tight ("\x7bfn " ++ e ++ "\x7d")
  | none => if hasDictionaries g then dictionaryExpr g r else fail

/-! ## Words -/

/-- Names of the session that are written without parentheses. -/
def sessionNames : List String := ["CURRENT_CATALOG", "CURRENT_USER", "SESSION_USER", "USER"]

/-- Names of the present time, with or without parentheses. -/
def timeNames : List String :=
  ["CURRENT_TIMESTAMP", "CURRENT_TIME", "CURRENT_DATE", "LOCALTIME", "LOCALTIMESTAMP"]

/-- Reads what a word with a meaning of its own starts, after the word; none if it has none. -/
def specialForm (g : Grammar) (r : Nested) (intervalOf : Parser Expr) (i : Ident) (k : String) :
    Parser (Option Expr) := do
  if (g == .postgres || g == .generic) && sessionNames.contains k then
    return some (.call [i] [])
  if timeNames.contains k then
    if ← symbol "(" then return some (.call [i] (← callArgs g r).1)
    else return some (.call [i] [])
  match k with
  | "TRUE" => return if hasBooleans g then some (.value (.boolean true)) else none
  | "FALSE" => return if hasBooleans g then some (.value (.boolean false)) else none
  | "NULL" => return some (.value .null)
  | "CASE" => some <$> caseExpr r
  | "CONVERT" => some <$> convertExpr g r "CONVERT"
  | "TRY_CONVERT" =>
    if g == .tsql || g == .generic then some <$> convertExpr g r "TRY_CONVERT" else return none
  | "CAST" | "TRY_CAST" | "SAFE_CAST" => some <$> castExpr g r k
  | "EXISTS" => some <$> subqueryAfter r "EXISTS"
  | "EXTRACT" => some <$> extractExpr g r
  | "CEIL" | "FLOOR" => some <$> roundingExpr g r k
  | "POSITION" =>
    if ← peekSymbol "(" then some <$> positionExpr g r (call g r intervalOf [i])
    else return none
  | "SUBSTRING" => some <$> substringExpr r
  | "OVERLAY" => some <$> overlayExpr r
  | "TRIM" => some <$> trimExpr g r
  | "INTERVAL" => some <$> intervalOf
  | "ARRAY" =>
    if ← symbol "[" then some <$> arrayExpr g r "ARRAY["
    else if ← peekSymbol "(" then
      let q ← parenthesized r.query
      return some (.call [i] ("(" ++ q ++ ")"))
    else return none
  | "NOT" =>
    if ← keyword "EXISTS" then some <$> subqueryAfter r "NOT EXISTS"
    else return some (loose ("NOT " ++ (← r.expr (g.strength .not))))
  | "MATCH" => if g == .mysql || g == .generic then some <$> matchAgainst g else return none
  | "STRUCT" => if g == .bigquery || g == .generic then some <$> structExpr g r else return none
  | "PRIOR" =>
    if r.prior then return some (loose ("PRIOR " ++ (← r.expr (g.strength .plus))))
    else return none
  | "MAP" =>
    if (g == .duckdb || g == .generic) && (← peekSymbol "\x7b") then some <$> mapExpr g r
    else return none
  | _ => return none

/-- Words that are not tried as names when the form they start cannot be read. -/
def reservedNames (g : Grammar) : List String :=
  if g == .snowflake then ["EXISTS", "STRUCT", "TRIM"]
  else ["EXISTS", "INTERVAL", "STRUCT", "TRIM"]

/-- Reads the dots and names after a first name; in one grammar a wildcard may end them. -/
def dottedName (g : Grammar) : Nat → List Ident → Parser (List Ident × Bool)
  | 0, _ => fail
  | fuel + 1, parts => do
    unless ← symbol "." do return (parts, false)
    match ← next with
    | .word i _ => dottedName g fuel (parts ++ [i])
    | .literal (.string s) => dottedName g fuel (parts ++ [⟨s, some '\''⟩])
    | .symbol "*" => if g == .postgres then return (parts, true) else fail
    | _ => fail

/-- The column that a name refers to. -/
def columnOf : ObjectName → Expr
  | [i] => .ident i
  | parts => .compound parts

/-- Reads the call of a method, if one comes next. -/
def method (g : Grammar) (r : Nested) (intervalOf : Parser Expr) : Parser (Option Phrase) := do
  unless ← symbol "." do return none
  match ← next with
  | .word i _ => return some ("." ++ i ++ (← callTail g r intervalOf))
  | _ => fail

/-- Reads calls of methods after an expression, in the one grammar that has them. -/
def withMethods (g : Grammar) (r : Nested) (intervalOf : Parser Expr) (e : Expr) :
    Parser Expr := do
  if g != .tsql then return e
  match ← maybe (many (method g r intervalOf)) with
  | some (m :: ms) => return loose (e ++ (m :: ms).flatten)
  | _ => return e

/-- Whether the mark of an outer join comes next. -/
def peekOuterMark (g : Grammar) : Parser Bool := do
  return (g == .snowflake || g == .tsql) &&
    (← get).take 3 == [.symbol "(", .symbol "+", .symbol ")"]

/-- Whether a word introduces the string after it. -/
def introduces (i : Ident) : Value → Bool
  | .string _ | .doubleQuoted _ | .marked .hexadecimal _ _ _ => i.value.startsWith "_"
  | _ => false

/-- Reads a column reference, a call or a string with an introducer, after its first word. -/
def nameExpr (g : Grammar) (r : Nested) (intervalOf : Parser Expr) (i : Ident) :
    Parser Expr := do
  match ← peek with
  | some (.symbol s) =>
    if s == "(" || s == "." then
      let (parts, wildcard) ← dottedName g ((← get).length + 1) [i]
      if wildcard then return loose (wildcardText parts)
      else if ← peekOuterMark g then
        modify (·.drop 3)
        return loose (columnOf parts ++ " (+)")
      else if ← peekSymbol "(" then withMethods g r intervalOf (← call g r intervalOf parts)
      else return .compound parts
    else return .ident i
  | some (.literal v) =>
    if introduces i v then
      skip
      return loose (i.value ++ " " ++ v)
    else return .ident i
  | _ => return .ident i

/-- Whether a word names the type of an interval, given the lexemes after it; a bracket would make
it an array. -/
def namesInterval (k : String) (ls : List Lexeme) : Bool :=
  k == "INTERVAL" && !ls.head?.any (·.isSymbol "[")

/-- Reads an operand after its first word. The flag says that the operand ends there: it is an
interval, or the word was taken for a name only because the form that it opens could not be read. -/
def wordOperand (g : Grammar) (r : Nested) (intervalOf : Parser Expr) (i : Ident) (k : String) :
    Parser (Expr × Bool) := fun ls =>
  let name (ends : Bool) := (nameExpr g r intervalOf i ls).map fun (e, rest) => ((e, ends), rest)
  match specialForm g r intervalOf i k ls with
  | .ok (some e, rest) => .ok ((e, namesInterval k ls), rest)
  | .ok (none, _) => name false
  | .error error =>
    if (reservedNames g).contains k then .error error
    else
      match name true with
      | .ok found => .ok found
      | .error _ => .error error

/-! ## Operands -/

/-- Reads a literal after the name of its type. -/
def typedLiteral (g : Grammar) : Parser Expr := do
  let t ← dataType g
  unless t.kind == .standard do fail
  return loose (t ++ " " ++ Value.string (← literalString g))

/-- Reads what stands in parentheses, after the opening one; a field may be taken of it. -/
def nestedOperand (g : Grammar) (r : Nested) (intervalOf : Parser Expr) : Parser Expr := do
  let e ←
    if ← peekQuery then .subquery <$> r.query
    else do
      match ← exprs g r with
      | [e] => pure (tight ("(" ++ e ++ ")"))
      | es => pure (loose ("(" ++ exprList es ++ ")"))
  expect ")"
  let e ← withMethods g r intervalOf e
  unless ← symbol "." do return e
  match ← next with
  | .word i _ => return loose (e ++ "." ++ i)
  | _ => fail

/-- Prefix operators of one grammar. -/
def postgresSigns : List String := ["!!", "|/", "||/", "@", "~"]

/-- Reads an operand that a symbol opens, after the symbol. -/
def symbolOperand (g : Grammar) (r : Nested) (intervalOf : Parser Expr) (s : String) :
    Parser Expr := do
  if s == "[" then arrayExpr g r "["
  else if s == "+" || s == "-" then return loose (s ++ (← r.expr (g.strength .times)))
  else if g == .postgres && postgresSigns.contains s then
    return loose (s ++ (← r.expr (g.strength .plus)))
  else if s == "(" then nestedOperand g r intervalOf
  else if s == ":" || s == "@" then
    modify (.symbol s :: ·)
    return .value (← value g)
  else if s == "\x7b" then bracedExpr g r intervalOf
  else fail

/-- Reads an operand. Intervals are operands of intervals, so the depth of that is bounded. -/
def operandFrom (g : Grammar) (r : Nested) : Nat → Parser Expr
  | 0 => fail
  | fuel + 1 => do
    let intervalOf := interval g r (operandFrom g r fuel)
    if let some e ← maybe (typedLiteral g) then return e
    let (e, ends) ← match ← next with
      | .word i k => wordOperand g r intervalOf i k
      | .literal v@(.escaped _) =>
        if g == .postgres || g == .generic then pure (.value v, false) else fail
      | .literal v => pure (.value v, false)
      | .symbol s => do pure (← symbolOperand g r intervalOf s, false)
      | .hyphen => do pure (← symbolOperand g r intervalOf "-", false)
      | .operator _ => fail
    if ends then return e
    let e ← withMethods g r intervalOf e
    if ← keyword "COLLATE" then return loose (e ++ " COLLATE " ++ (← objectName g))
    return e

/-- Reads an operand. -/
def operand (g : Grammar) (r : Nested) : Parser Expr := do
  operandFrom g r ((← get).length + 1)

end DatasetSql.Statement.Parser
