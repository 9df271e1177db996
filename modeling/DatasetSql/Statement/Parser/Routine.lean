import DatasetSql.Statement.Parser.Table

/-!
# Reading routines

New functions, macros, procedures and triggers, each after its keyword.
-/

namespace DatasetSql.Statement.Parser

/-! ## Functions -/

/-- Reads an argument of a function: a mode, a name and a type, of which only the type must be
there, and the value it has if it is not given. -/
def functionArgument (g : Grammar) (r : Nested) : Parser Phrase := do
  let mode : Phrase ← do
    match ← oneOf ["IN", "OUT", "INOUT"] with
    | some k => pure (k ++ " " : Phrase)
    | none => pure []
  let first := (← peek).bind identOf
  let type ← dataType g
  let typed : Phrase ←
    match type.kind, first with
    | .custom, some name => do pure (name ++ " " ++ (← dataType g) : Phrase)
    | _, _ => pure (type : Phrase)
  let isDefault ← keyword "DEFAULT"
  let hasDefault ← if isDefault then pure true else symbol "="
  if hasDefault then return mode ++ typed ++ " = " ++ (← anyExpr r) else return mode ++ typed

/-- Reads a name and the arguments after it, if these are said. -/
def functionDesc (g : Grammar) (r : Nested) : Parser Phrase := do
  let name ← objectName g
  unless ← symbol "(" do return name
  if ← symbol ")" then return name
  let args ← list g (functionArgument g r)
  expect ")"
  return name ++ "(" ++ args ++ ")"

/-- What is said about a function. -/
structure FunctionClauses where
  language : Phrase := []
  behavior : Phrase := []
  onNull : Phrase := []
  parallel : Phrase := []
  body : Phrase := []

/-- Reads the text of a function. -/
def functionBody (g : Grammar) : Parser Phrase := do
  match ← peek with
  | some (.literal v@(.dollarQuoted _ _)) =>
    if g == .postgres || g == .generic then skip; return v
    else return Value.string (← literalString g)
  | _ => return Value.string (← literalString g)

/-- Reads what is said about a function, each at most once. -/
def functionClauses (g : Grammar) (r : Nested) : Nat → FunctionClauses → Parser FunctionClauses
  | 0, _ => fail
  | fuel + 1, c => do
    if ← keyword "AS" then
      unless c.body.isEmpty do fail
      functionClauses g r fuel { c with body := " AS " ++ (← functionBody g) }
    else if ← keyword "LANGUAGE" then
      unless c.language.isEmpty do fail
      functionClauses g r fuel { c with language := " LANGUAGE " ++ (← ident) }
    else if let some k ← oneOf ["IMMUTABLE", "STABLE", "VOLATILE"] then
      unless c.behavior.isEmpty do fail
      functionClauses g r fuel { c with behavior := (" " ++ k : String) }
    else if ← keyword "PARALLEL" then
      unless c.parallel.isEmpty do fail
      let k ← expectOneOf ["UNSAFE", "RESTRICTED", "SAFE"]
      functionClauses g r fuel { c with parallel := (" PARALLEL " ++ k : String) }
    else if ← keyword "RETURN" then
      unless c.body.isEmpty do fail
      functionClauses g r fuel { c with body := " RETURN " ++ (← anyExpr r) }
    else
    match ← firstFlag [["CALLED", "ON", "NULL", "INPUT"],
      ["RETURNS", "NULL", "ON", "NULL", "INPUT"], ["STRICT"]] with
    | [] => return c
    | onNull =>
      unless c.onNull.isEmpty do fail
      functionClauses g r fuel { c with onNull }

/-- Reads the type that a function returns, if it is said. -/
def returnType (g : Grammar) : Parser Phrase := clause ["RETURNS"] do return (← dataType g)

/-- Reads a function whose text is a string. -/
def createTextFunction (g : Grammar) (r : Nested) (opening : Phrase) : Parser Phrase := do
  let name ← objectName g
  let args ← inParens do
    if ← peekSymbol ")" then return [] else list g (functionArgument g r)
  let type ← returnType g
  let c ← functionClauses g r ((← get).length + 1) {}
  return opening ++ "FUNCTION " ++ name ++ args ++ type ++ c.language ++ c.behavior ++ c.onNull ++
    c.parallel ++ c.body

/-- Reads a name and a type. -/
def typedName (g : Grammar) : Parser Phrase := do
  let name ← ident
  return name ++ " " ++ (← dataType g)

/-- Reads a function whose body is an expression, or that runs elsewhere. Options may stand on
either side of the body. -/
def createExprFunction (g : Grammar) (r : Nested) (opening : Phrase) : Parser Phrase := do
  let exists' ← ifNotExists
  let name ← objectName g
  expect "("
  let args ← separatedOrNone (trailingCommas g) (typedName g) ")"
  expect ")"
  let type ← returnType g
  let determinism ← firstFlag [["DETERMINISTIC"], ["NOT", "DETERMINISTIC"]]
  let language ← clause ["LANGUAGE"] do return (← ident)
  let remote ← clause ["REMOTE", "WITH", "CONNECTION"] do return (← objectName g)
  let options ← optionsClause g r
  let head : Phrase := opening ++ "FUNCTION " ++ exists' ++ name ++ "(" ++ commas args ++ ")" ++
    type ++ determinism ++ language ++ remote
  let early := afterText " " (options.getD [])
  unless remote.isEmpty do return head ++ early
  expectKeyword "AS"
  let body : Phrase := " AS " ++ (← anyExpr r)
  if options.isSome then return head ++ early ++ body
  else return head ++ body ++ afterText " " ((← optionsClause g r).getD [])

/-- Reads an argument of a macro. -/
def macroArgument (r : Nested) : Parser Phrase := do
  let name ← ident
  let assigned ← symbol ":="
  let hasDefault ← if assigned then pure true else symbol "=>"
  if hasDefault then return name ++ " := " ++ (← anyExpr r) else return name

/-- Reads a `CREATE MACRO` after its keyword. Without arguments it is written without
parentheses. -/
def createMacro (g : Grammar) (r : Nested) (opening : Phrase) : Parser Phrase := do
  unless g == .duckdb || g == .generic do fail
  let name ← objectName g
  expect "("
  let args : Phrase ←
    if ← peekSymbol ")" then pure []
    else do pure ("(" ++ (← list g (macroArgument r)) ++ ")" : Phrase)
  expect ")"
  expectKeyword "AS"
  if ← keyword "TABLE" then return opening ++ "MACRO " ++ name ++ args ++ " AS TABLE " ++ (← r.query)
  else return opening ++ "MACRO " ++ name ++ args ++ " AS " ++ (← anyExpr r)

/-- Reads a `CREATE FUNCTION` after its keyword. -/
def createFunction (g : Grammar) (r : Nested) (opening : Phrase) : Parser Phrase :=
  match g with
  | .postgres | .generic => createTextFunction g r opening
  | .duckdb => createMacro g r opening
  | .bigquery => createExprFunction g r opening
  | _ => fail

/-! ## Procedures and triggers -/

/-- Reads the parameters of a procedure after the opening parenthesis, at most so many. -/
def procedureParameters (g : Grammar) : Nat → Parser (List Phrase)
  | 0 => fail
  | fuel + 1 => do
    let parameter : List Phrase ←
      if (← peek) matches some (.word _ _) then do pure [← typedName g] else pure []
    let comma ← symbol ","
    if ← symbol ")" then return parameter
    unless comma do fail
    return parameter ++ (← procedureParameters g fuel)

/-- Reads statements up to the end or a lone `END`; `closed` says that a statement may start. -/
def statementList (statement : Parser Statement) : Nat → Bool → Parser (List Statement)
  | 0, _ => fail
  | fuel + 1, closed => do
    if ← symbol ";" then statementList statement fuel true
    else if ← atEnd then return []
    else if !closed then
      if ← peekKeyword "END" then return [] else fail
    else
      let s ← statement
      return s :: (← statementList statement fuel false)

/-- Reads a `CREATE PROCEDURE` after its keywords. -/
def createProcedure (g : Grammar) (r : Nested) (altered : Phrase) : Parser Phrase := do
  let name ← objectName g
  let parameters ←
    if ← symbol "(" then
      if ← symbol ")" then pure [] else do procedureParameters g ((← get).length + 1)
    else pure []
  expectKeywords ["AS", "BEGIN"]
  let body ← statementList r.statement ((← get).length + 1) true
  expectKeyword "END"
  let parameters : Phrase := if parameters.isEmpty then [] else " (" ++ commas parameters ++ ")"
  return "CREATE " ++ altered ++ "PROCEDURE " ++ name ++ parameters ++ " AS BEGIN " ++
    between "; " (body.map statementPhrase) ++ " END"

/-- Reads an event that fires a trigger. -/
def triggerEvent (g : Grammar) : Parser Phrase := do
  match ← expectOneOf ["INSERT", "UPDATE", "DELETE", "TRUNCATE"] with
  | "UPDATE" => return "UPDATE" ++ (← clause ["OF"] (identsPhrase g))
  | k => return k

/-- Reads events between `OR`, at most so many. -/
def triggerEvents (g : Grammar) : Nat → Parser (List Phrase)
  | 0 => fail
  | fuel + 1 => do
    let e ← triggerEvent g
    if ← keyword "OR" then return e :: (← triggerEvents g fuel) else return [e]

/-- Reads the name of a table of old or new rows, if there is one. -/
def transitionTable (g : Grammar) : Parser (Option Phrase) := do
  match ← oneOf ["OLD", "NEW"] with
  | none => return none
  | some k =>
    unless ← keyword "TABLE" do return none
    let as ← flag ["AS"]
    return some (k ++ " TABLE" ++ as ++ " " ++ (← objectName g))

/-- Reads a `CREATE TRIGGER` after its keywords. -/
def createTrigger (g : Grammar) (r : Nested) (opening : Phrase) : Parser Phrase := do
  unless g == .postgres || g == .generic || g == .mysql do fail
  let name ← objectName g
  let period ← firstFlag [["BEFORE"], ["AFTER"], ["INSTEAD", "OF"]]
  if period.isEmpty then fail
  let events ← triggerEvents g ((← get).length + 1)
  expectKeyword "ON"
  let table ← objectName g
  let other ← if ← keyword "FROM" then nameAfter " FROM " (tableName g) else pure []
  let characteristics ← characteristics
  let tables ← if ← keyword "REFERENCING" then many (transitionTable g) else pure []
  expectKeyword "FOR"
  let each ← flag ["EACH"]
  let object ← expectOneOf ["ROW", "STATEMENT"]
  let condition ← exprClause "WHEN" r
  expectKeyword "EXECUTE"
  let kind ← expectOneOf ["FUNCTION", "PROCEDURE"]
  let referencing : Phrase :=
    if tables.isEmpty then [] else " REFERENCING " ++ between " " tables
  return opening ++ "TRIGGER " ++ name ++ period ++ " " ++ between " OR " events ++ " ON " ++
    table ++ other ++ characteristics ++ referencing ++ " FOR" ++ each ++ " " ++ object ++
    condition ++ " EXECUTE " ++ kind ++ " " ++ (← functionDesc g r)

end DatasetSql.Statement.Parser
