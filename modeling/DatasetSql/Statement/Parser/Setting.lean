import DatasetSql.Statement.Parser.Query

/-!
# Reading options

The clauses that many commands share: options in parentheses, constraints on where a command runs,
and words that are there or not.
-/

namespace DatasetSql.Statement.Parser

/-! ## Options -/

/-- Reads a column of a clustered index. -/
def clusteredColumn : Parser Phrase := do
  let name ← ident
  return name ++ (← choice ["ASC", "DESC"])

/-- Reads how rows are clustered, as an option. -/
def clusteredOption (g : Grammar) : Parser Phrase := do
  expectKeyword "CLUSTERED"
  if ← keywords ["COLUMNSTORE", "INDEX", "ORDER"] then
    return "CLUSTERED COLUMNSTORE INDEX ORDER " ++ columnsText (← identList g)
  else if ← keywords ["COLUMNSTORE", "INDEX"] then return "CLUSTERED COLUMNSTORE INDEX"
  else
    expectKeyword "INDEX"
    return "CLUSTERED INDEX " ++ (← inParens (list g clusteredColumn))

/-- Reads how rows are partitioned, as an option. -/
def partitionOption (g : Grammar) (r : Nested) : Parser Phrase := do
  expectKeyword "PARTITION"
  expect "("
  let column ← ident
  expectKeyword "RANGE"
  let direction ← choice ["LEFT", "RIGHT"]
  expectKeywords ["FOR", "VALUES"]
  let values ← inParens (exprListPhrase g r)
  expect ")"
  return "PARTITION (" ++ column ++ " RANGE" ++ direction ++ " FOR VALUES " ++ values ++ ")"

/-- Reads an option: a name and its value, or one of the forms that some grammars have. -/
def tableOption (g : Grammar) (r : Nested) : Parser Phrase := do
  let special := g == .tsql || g == .generic
  if special && (← peekKeyword "HEAP") then return (← ident)
  else if special && (← peekKeyword "PARTITION") then partitionOption g r
  else if special && (← peekKeyword "CLUSTERED") then clusteredOption g
  else
    let key ← ident
    expect "="
    return key ++ " = " ++ (← anyExpr r)

/-- Reads options in parentheses, without them. -/
def optionsPhrase (g : Grammar) (r : Nested) : Parser Phrase := do
  expect "("
  let options ← separatedOrNone (trailingCommas g) (tableOption g r) ")"
  expect ")"
  return commas options

/-- Reads options after some keywords, if these come next; the text comes before the options, which
are left out if there are none. -/
def optionsAfter (g : Grammar) (r : Nested) (ks : List String) (text : String) :
    Parser Phrase := do
  unless ← keywords ks do return []
  let options ← optionsPhrase g r
  return if options.isEmpty then [] else text ++ "(" ++ options ++ ")"

/-- Reads options after `OPTIONS`, if it comes next; they are written even if there are none. -/
def optionsClause (g : Grammar) (r : Nested) : Parser (Option Phrase) := do
  unless ← keyword "OPTIONS" do return none
  return some ("OPTIONS(" ++ (← optionsPhrase g r) ++ ")")

/-! ## Words of many commands -/

/-- Reads `IF NOT EXISTS`, if it comes next. -/
def ifNotExists : Parser Phrase := do
  if ← keywords ["IF", "NOT", "EXISTS"] then return "IF NOT EXISTS " else return []

/-- Reads `IF EXISTS`, if it comes next. -/
def ifExists : Parser Phrase := do
  if ← keywords ["IF", "EXISTS"] then return "IF EXISTS " else return []

/-- Reads a keyword, if it comes next; a blank follows it. -/
def leading (k : String) : Parser Phrase := do
  if ← keyword k then return (k ++ " " : String) else return []

/-- Reads the cluster that a command runs on, if it is said. -/
def onCluster : Parser Phrase := clause ["ON", "CLUSTER"] do return (← ident)

/-- Reads what happens to what depends on a thing, if it is said. -/
def dropBehavior : Parser Phrase := choice ["CASCADE", "RESTRICT"]

/-- Reads expressions in parentheses, with them. -/
def exprParens (g : Grammar) (r : Nested) : Parser Phrase := inParens (exprListPhrase g r)

/-- Reads names between commas as a phrase. -/
def namesPhrase (g : Grammar) : Parser Phrase := return nameList (← objectNames g)

/-- Reads identifiers between commas as a phrase. -/
def identsPhrase (g : Grammar) : Parser Phrase := return Statement.identList (← idents g)

/-- Reads a string and writes it between quotes as it stands. -/
def plainString (g : Grammar) : Parser Phrase := return plainQuoted (← literalString g)

/-- Reads a string and writes it between quotes. -/
def quotedString (g : Grammar) : Parser Phrase := return quoted '\'' (← literalString g)

/-- Reads a string in single quotes. -/
def singleQuoted : Parser String := do
  match ← next with
  | .literal (.string s) => return s
  | _ => fail

/-- Columns in parentheses with a blank before them, unless there are none. -/
def columnsAfter (is : List Ident) : Phrase :=
  if is.isEmpty then [] else " " ++ columnsText is

/-- The parts of a statement. -/
def statementPhrase : Statement → Phrase
  | .query q => q
  | .command parts => parts

end DatasetSql.Statement.Parser
