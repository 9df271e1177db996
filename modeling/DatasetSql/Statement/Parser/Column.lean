import DatasetSql.Statement.Parser.Setting

/-!
# Reading columns and constraints

What stands between the parentheses of a new table: columns with their options, and the constraints
of the table.
-/

namespace DatasetSql.Statement.Parser

/-! ## Constraints in general -/

/-- Reads when a constraint is checked. Each of its three sides is said at most once and written in
a fixed order. -/
def characteristicsFrom : Nat → Phrase → Phrase → Phrase → Parser Phrase
  | 0, _, _, _ => fail
  | fuel + 1, deferrable, initially, enforced => do
    if ← onlyIf deferrable.isEmpty (keywords ["NOT", "DEFERRABLE"]) then
      characteristicsFrom fuel " NOT DEFERRABLE" initially enforced
    else if ← onlyIf deferrable.isEmpty (keyword "DEFERRABLE") then
      characteristicsFrom fuel " DEFERRABLE" initially enforced
    else if ← onlyIf initially.isEmpty (keyword "INITIALLY") then
      let k ← expectOneOf ["DEFERRED", "IMMEDIATE"]
      characteristicsFrom fuel deferrable (" INITIALLY " ++ k) enforced
    else if ← onlyIf enforced.isEmpty (keyword "ENFORCED") then
      characteristicsFrom fuel deferrable initially " ENFORCED"
    else if ← onlyIf enforced.isEmpty (keywords ["NOT", "ENFORCED"]) then
      characteristicsFrom fuel deferrable initially " NOT ENFORCED"
    else return deferrable ++ initially ++ enforced

/-- Reads when a constraint is checked. -/
def characteristics : Parser Phrase := characteristicsFrom 4 [] [] []

/-- Reads what happens to rows that refer to a changed row. -/
def referentialAction : Parser Phrase := do
  match ← firstFlag [["RESTRICT"], ["CASCADE"], ["SET", "NULL"], ["NO", "ACTION"],
    ["SET", "DEFAULT"]] with
  | [] => fail
  | phrase => return phrase

/-- Reads what happens on deletes and updates of a row that is referred to. -/
def referentialActions : Nat → Phrase → Phrase → Parser Phrase
  | 0, _, _ => fail
  | fuel + 1, onDelete, onUpdate => do
    if ← onlyIf onDelete.isEmpty (keywords ["ON", "DELETE"]) then
      let action ← referentialAction
      referentialActions fuel (" ON DELETE" ++ action) onUpdate
    else if ← onlyIf onUpdate.isEmpty (keywords ["ON", "UPDATE"]) then
      let action ← referentialAction
      referentialActions fuel onDelete (" ON UPDATE" ++ action)
    else return onDelete ++ onUpdate

/-- Reads the actions of a reference and when it is checked. -/
def referenceTail : Parser Phrase := do
  let actions ← referentialActions 3 [] []
  return actions ++ (← characteristics)

/-! ## Sequences -/

/-- Reads a bound of a sequence, if it is said. -/
def sequenceBound (g : Grammar) (k : String) : Parser Phrase := do
  if ← keyword k then return " " ++ k ++ " " ++ (← signedNumber g) else flag ["NO", k]

/-- Reads a number after a keyword and an optional second one, if the first comes next. -/
def sequenceNumber (g : Grammar) (k optional : String) : Parser Phrase := do
  unless ← keyword k do return []
  let second ← flag [optional]
  return " " ++ k ++ second ++ " " ++ (← signedNumber g)

/-- Reads the options of a sequence, in their fixed order. -/
def sequenceOptions (g : Grammar) : Parser Phrase := do
  let increment ← sequenceNumber g "INCREMENT" "BY"
  let low ← sequenceBound g "MINVALUE"
  let high ← sequenceBound g "MAXVALUE"
  let start ← sequenceNumber g "START" "WITH"
  let cache ← clause ["CACHE"] (signedNumber g)
  return increment ++ low ++ high ++ start ++ cache ++
    (← firstFlag [["NO", "CYCLE"], ["CYCLE"]])

/-! ## Options of columns -/

/-- Reads a seed and an increment in parentheses, with them. -/
def identityNumbers (g : Grammar) : Parser Phrase := do
  expect "("
  let seed ← signedNumber g
  expect ","
  let increment ← signedNumber g
  expect ")"
  return "(" ++ seed ++ ", " ++ increment ++ ")"

/-- Reads how a numbered column counts, with an order. -/
def orderedIdentity (g : Grammar) (k : String) : Parser Phrase := do
  let numbers : Phrase ←
    if ← peekSymbol "(" then identityNumbers g
    else if ← keyword "START" then do
      let seed ← signedNumber g
      expectKeyword "INCREMENT"
      pure (" START " ++ seed ++ " INCREMENT " ++ (← signedNumber g) : Phrase)
    else pure []
  return k ++ numbers ++ (← choice ["ORDER", "NOORDER"])

/-- Reads a tag and its value. -/
def tag (g : Grammar) : Parser Phrase := do
  let name ← ident
  expect "="
  return name ++ "=" ++ (← quotedString g)

/-- Reads the columns that a policy looks at, if they are said. -/
def policyColumns (g : Grammar) : Parser Phrase := do
  if ← keyword "USING" then return " USING " ++ columnsText (← identList g) else return []

/-- Reads an option that only one grammar has; none if there is no such option. -/
def governedOption (g : Grammar) : Parser (Option Phrase) := do
  let start ← get
  let with' ← leading "WITH"
  if ← keyword "IDENTITY" then some <$> orderedIdentity g "IDENTITY"
  else if ← keyword "AUTOINCREMENT" then some <$> orderedIdentity g "AUTOINCREMENT"
  else if ← keywords ["MASKING", "POLICY"] then
    let name ← ident
    return some (with' ++ "MASKING POLICY " ++ name ++ (← policyColumns g))
  else if ← keywords ["PROJECTION", "POLICY"] then
    let name ← ident
    return some (with' ++ "PROJECTION POLICY " ++ name ++ (← policyColumns g))
  else if ← keyword "TAG" then
    return some (with' ++ "TAG " ++ (← inParens (list g (tag g))))
  else
    set start
    return none

/-- Reads the options of the sequence of a column, if they are said. -/
def identitySequence (g : Grammar) : Parser Phrase := do
  unless ← symbol "(" do return []
  let options ← sequenceOptions g
  expect ")"
  return if options.isEmpty then [] else " (" ++ options ++ " )"

/-- Reads whether a computed column is stored. -/
def computedMode : Parser Phrase := choice ["STORED", "VIRTUAL"]

/-- Reads how a column is generated, after `GENERATED`. -/
def generatedOption (g : Grammar) (r : Nested) : Parser (Option Phrase) := do
  if ← keywords ["ALWAYS", "AS", "IDENTITY"] then
    return some ("GENERATED ALWAYS AS IDENTITY" ++ (← identitySequence g))
  else if ← keywords ["BY", "DEFAULT", "AS", "IDENTITY"] then
    return some ("GENERATED BY DEFAULT AS IDENTITY" ++ (← identitySequence g))
  else if ← keywords ["ALWAYS", "AS"] then
    unless ← peekSymbol "(" do return none
    let e ← inParens (exprPhrase r)
    let mode ← if g == .postgres then flag ["STORED"] else computedMode
    if g == .postgres && mode.isEmpty then fail
    return some ("GENERATED ALWAYS AS " ++ e ++ mode)
  else return none

/-- Reads a word that is an option in some grammars; in the others it is passed over. -/
def wordOption (allowed : Bool) (k : String) : Parser (Option Phrase) := do
  if ← keyword k then return if allowed then some k else none else return none

/-- Reads the first of some options that is found. -/
def firstOption : List (Parser (Option Phrase)) → Parser (Option Phrase)
  | [] => return none
  | p :: ps => do
    match ← p with
    | some phrase => return some phrase
    | none => firstOption ps

/-- An option that some keywords open. -/
def optionAfter (ks : List String) (p : Parser Phrase) : Parser (Option Phrase) := do
  if ← keywords ks then return some (Text.joined " " ks ++ (← p)) else return none

/-- An option of an expression after a keyword. -/
def exprOption (k : String) (r : Nested) : Parser (Option Phrase) :=
  optionAfter [k] do
    return " " ++ (← anyExpr r)

/-- An option that only some grammars have. -/
def optionWhen (condition : Bool) (p : Parser (Option Phrase)) : Parser (Option Phrase) :=
  if condition then p else return none

/-- Reads a reference to another table after its keyword. -/
def references (g : Grammar) : Parser Phrase := do
  let table ← objectName g
  let columns ← optionalIdents g false
  return " " ++ table ++ columnsAfter columns ++ (← referenceTail)

/-- Reads the expression of a column that is filled only on insert, if there is one. -/
def ephemeralValue (r : Nested) : Parser Phrase := do
  let closed ← peekSymbol ")"
  if closed || (← peekSymbol ",") then return [] else return " " ++ (← anyExpr r)

/-- Reads a value that is set on updates; only some grammars have it. -/
def onUpdateOption (g : Grammar) (r : Nested) : Parser (Option Phrase) := do
  unless ← keywords ["ON", "UPDATE"] do return none
  unless g == .mysql || g == .generic do return none
  return some ("ON UPDATE " ++ (← anyExpr r))

/-- Reads a computed column without `GENERATED`; only some grammars have it. -/
def computedOption (g : Grammar) (r : Nested) : Parser (Option Phrase) := do
  unless ← keyword "AS" do return none
  unless g == .mysql || g == .generic || g == .duckdb do return none
  let e ← inParens (exprPhrase r)
  return some ("AS " ++ e ++ (← computedMode))

/-- Reads how a numbered column counts; only some grammars have it. -/
def identityOption (g : Grammar) : Parser (Option Phrase) := do
  unless ← keyword "IDENTITY" do return none
  unless g == .tsql || g == .generic do return none
  if ← peekSymbol "(" then return some ("IDENTITY" ++ (← identityNumbers g))
  else return some "IDENTITY"

/-- The conflict resolutions of a column. -/
def resolutions : List String := ["ROLLBACK", "ABORT", "FAIL", "IGNORE", "REPLACE"]

/-- A phrase with a blank before it. -/
def blankThen (p : Parser Phrase) : Parser Phrase := return " " ++ (← p)

/-- Reads one of the usual options of a column, if there is one. -/
def usualOption (g : Grammar) (r : Nested) : Parser (Option Phrase) :=
  let generic := g == .generic
  firstOption
    [ optionWhen (g == .snowflake) (governedOption g),
      optionAfter ["CHARACTER", "SET"] (blankThen do return (← objectName g)),
      optionAfter ["NOT", "NULL"] (return []),
      optionAfter ["COMMENT"] (blankThen do return quoted '\'' (← singleQuoted)),
      optionAfter ["NULL"] (return []),
      exprOption "DEFAULT" r,
      optionWhen generic (exprOption "MATERIALIZED" r),
      optionWhen generic (exprOption "ALIAS" r),
      optionWhen generic (optionAfter ["EPHEMERAL"] (ephemeralValue r)),
      optionAfter ["PRIMARY", "KEY"] characteristics,
      optionAfter ["UNIQUE"] characteristics,
      optionAfter ["REFERENCES"] (references g),
      optionAfter ["CHECK"] (blankThen (inParens (exprPhrase r))),
      wordOption (g == .mysql || generic) "AUTO_INCREMENT",
      wordOption generic "AUTOINCREMENT",
      wordOption generic "ASC",
      wordOption generic "DESC",
      onUpdateOption g r ]

/-- Reads one of the less usual options of a column, if there is one. -/
def rareOption (g : Grammar) (r : Nested) : Parser (Option Phrase) :=
  let generic := g == .generic
  firstOption
    [ optionWhen (g == .bigquery || generic) (optionsClause g r),
      computedOption g r,
      identityOption g,
      optionWhen generic
        (optionAfter ["ON", "CONFLICT"] (blankThen do return (← expectOneOf resolutions))) ]

/-- Reads an option of a column, if there is one. -/
def columnOption (g : Grammar) (r : Nested) : Parser (Option Phrase) := do
  match ← usualOption g r with
  | some phrase => return some phrase
  | none => if ← keyword "GENERATED" then generatedOption g r else rareOption g r

/-! ## Columns -/

/-- Reads the collation of a column, if it is said. -/
def collation (g : Grammar) : Parser Phrase := clause ["COLLATE"] do return (← objectName g)

/-- Reads the options of a column and its collation, which is written before them. -/
def columnTail (g : Grammar) (r : Nested) : Nat → Phrase → Phrase → Parser Phrase
  | 0, _, _ => fail
  | fuel + 1, collate, options => do
    if ← keyword "CONSTRAINT" then
      let name ← ident
      match ← columnOption g r with
      | some o => columnTail g r fuel collate (options ++ " CONSTRAINT " ++ name ++ " " ++ o)
      | none => fail
    else
    match ← columnOption g r with
    | some o => columnTail g r fuel collate (options ++ " " ++ o)
    | none =>
      let late := g == .mysql || g == .snowflake || g == .generic
      match ← if late then collation g else pure [] with
      | [] => return collate ++ options
      | other => columnTail g r fuel other options

/-- Reads a column of a new table. -/
def columnDef (g : Grammar) (r : Nested) : Parser Phrase := do
  let name ← ident
  let type ← dataType g
  let collate ← collation g
  return name ++ " " ++ type ++ (← columnTail g r ((← get).length + 1) collate [])

/-! ## Constraints of tables -/

/-- Reads `KEY` or `INDEX`, if it comes next. -/
def keyOrIndex : Parser Phrase := choice ["KEY", "INDEX"]

/-- Reads the name of an index, if it is said. -/
def indexName : Parser Phrase := do
  match ← maybe ident with
  | some i => return " " ++ i
  | none => return []

/-- Reads the kind of an index, if it is said. -/
def indexType : Parser Phrase := clause ["USING"] do return (← expectOneOf ["BTREE", "HASH"])

/-- Reads an option of an index, if there is one. -/
def indexOption (g : Grammar) : Parser (Option Phrase) := do
  match ← indexType with
  | [] =>
    if ← keyword "COMMENT" then return some (" COMMENT " ++ (← plainString g)) else return none
  | phrase => return some phrase

/-- Reads the columns of a key with its name, its kind and its options. -/
def keyColumns (g : Grammar) : Parser Phrase := do
  let name ← indexName
  let type ← indexType
  let columns ← identList g
  let options ← many (indexOption g)
  return name ++ type ++ " " ++ columnsText columns ++ options.flatten ++ (← characteristics)

/-- Reads whether nulls are distinct, if it is said. -/
def nullsDistinct : Parser Phrase := do
  unless ← keyword "NULLS" do return []
  let negated ← flag ["NOT"]
  expectKeyword "DISTINCT"
  return " NULLS" ++ negated ++ " DISTINCT"

/-- Reads a constraint of a table after its name, if there is one. -/
def tableConstraint (g : Grammar) (r : Nested) (named : Bool) : Parser (Option Phrase) := do
  let mysql := g == .generic || g == .mysql
  if ← keyword "UNIQUE" then
    let display ← keyOrIndex
    if !mysql && !display.isEmpty then fail
    let nulls ← nullsDistinct
    return some ("UNIQUE" ++ nulls ++ display ++ (← keyColumns g))
  else if ← keyword "PRIMARY" then
    expectKeyword "KEY"
    return some ("PRIMARY KEY" ++ (← keyColumns g))
  else if ← keyword "FOREIGN" then
    expectKeyword "KEY"
    let columns ← identList g
    expectKeyword "REFERENCES"
    let table ← objectName g
    let referred ← identList g
    return some ("FOREIGN KEY " ++ columnsText columns ++ " REFERENCES " ++ table ++
      columnsText referred ++ (← referenceTail))
  else if ← keyword "CHECK" then return some ("CHECK " ++ (← inParens (exprPhrase r)))
  else if mysql && !named && ((← peekKeyword "INDEX") || (← peekKeyword "KEY")) then
    let word ← expectOneOf ["INDEX", "KEY"]
    let name ← if ← peekKeyword "USING" then pure [] else indexName
    let type ← indexType
    return some (word ++ name ++ type ++ " " ++ columnsText (← identList g))
  else if mysql && ((← peekKeyword "FULLTEXT") || (← peekKeyword "SPATIAL")) then
    if named then fail
    let word ← expectOneOf ["FULLTEXT", "SPATIAL"]
    let display ← keyOrIndex
    let name ← indexName
    return some (word ++ display ++ name ++ " " ++ columnsText (← identList g))
  else return none

/-- Reads a constraint of a table, if there is one. -/
def optionalConstraint (g : Grammar) (r : Nested) : Parser (Option Phrase) := do
  if ← keyword "CONSTRAINT" then
    let name ← ident
    match ← tableConstraint g r true with
    | some c => return some ("CONSTRAINT " ++ name ++ " " ++ c)
    | none => fail
  else tableConstraint g r false

/-- Reads columns and constraints after an opening parenthesis, up to the closing one; the columns
come first. -/
def definitionsFrom (g : Grammar) (r : Nested) : Nat → Parser (List Phrase × List Phrase)
  | 0 => fail
  | fuel + 1 => do
    let constraint ← optionalConstraint g r
    let column : List Phrase ←
      if constraint.isSome then pure []
      else if (← peek) matches some (.word _ _) then do pure [← columnDef g r]
      else fail
    let comma ← symbol ","
    let closed ← peekSymbol ")"
    if !comma && !closed then fail
    if closed && (!comma || trailingCommas g) then
      skip
      return (column, constraint.toList)
    let (columns, constraints) ← definitionsFrom g r fuel
    return (column ++ columns, constraint.toList ++ constraints)

/-- Reads the columns and constraints of a table, if there are any. -/
def definitions (g : Grammar) (r : Nested) : Parser (List Phrase × List Phrase) := do
  unless ← symbol "(" do return ([], [])
  if ← symbol ")" then return ([], [])
  definitionsFrom g r ((← get).length + 1)

end DatasetSql.Statement.Parser
