import DatasetSql.Statement.Parser.Setting

/-!
# Reading access rules

Who may do what: grants, roles and policies.
-/

namespace DatasetSql.Statement.Parser

/-! ## Grants -/

/-- What can be granted. -/
def actions : List String :=
  ["CONNECT", "CREATE", "DELETE", "EXECUTE", "INSERT", "REFERENCES", "SELECT", "TEMPORARY",
    "TRIGGER", "TRUNCATE", "UPDATE", "USAGE"]

/-- What can be granted on single columns. -/
def columnActions : List String := ["INSERT", "REFERENCES", "SELECT", "UPDATE"]

/-- Reads an action with its columns. -/
def action (g : Grammar) : Parser Phrase := do
  let k ← expectOneOf actions
  if columnActions.contains k then return k ++ columnsAfter (← optionalIdents g false)
  else return k

/-- Reads actions between commas, at most so many. -/
def actionsFrom (g : Grammar) : Nat → Parser (List Phrase)
  | 0 => fail
  | fuel + 1 => do
    let a ← action g
    unless ← symbol "," do return [a]
    let rest ← peek
    let ends := match rest with
      | none => true
      | some (.symbol s) => [")", ";", "]", "\x7d"].contains s
      | some l => l.isKeyword "ON"
    if trailingCommas g && ends then return [a]
    return a :: (← actionsFrom g fuel)

/-- Reads what is granted. -/
def privileges (g : Grammar) : Parser Phrase := do
  if ← keyword "ALL" then return "ALL" ++ (← flag ["PRIVILEGES"])
  else return commas (← actionsFrom g ((← get).length + 1))

/-- Reads what something is granted on. -/
def grantObjects (g : Grammar) : Parser Phrase := do
  let words ← firstFlag [["ALL", "TABLES", "IN", "SCHEMA"], ["ALL", "SEQUENCES", "IN", "SCHEMA"],
    ["SEQUENCE"], ["SCHEMA"]]
  if words.isEmpty then
    let _ ← keyword "TABLE"
  return words ++ " " ++ (← namesPhrase g)

/-- Reads what is granted and on what. -/
def granted (g : Grammar) : Parser Phrase := do
  let privileges ← privileges g
  expectKeyword "ON"
  return privileges ++ " ON" ++ (← grantObjects g)

/-- Reads who grants something, if it is said. -/
def grantedBy : Parser Phrase := clause ["GRANTED", "BY"] do return (← ident)

/-- Reads a `GRANT`. -/
def grant (g : Grammar) : Parser Phrase := do
  let what ← granted g
  expectKeyword "TO"
  let grantees ← identsPhrase g
  let option ← flag ["WITH", "GRANT", "OPTION"]
  return "GRANT " ++ what ++ " TO " ++ grantees ++ option ++ (← grantedBy)

/-- Reads a `REVOKE`. What depends on it stays unless it is said to go. -/
def revoke (g : Grammar) : Parser Phrase := do
  let what ← granted g
  expectKeyword "FROM"
  let grantees ← identsPhrase g
  let grantor ← grantedBy
  let cascade ← keyword "CASCADE"
  let restrict ← keyword "RESTRICT"
  if cascade && restrict then fail
  return "REVOKE " ++ what ++ " FROM " ++ grantees ++ grantor ++
    if cascade then " CASCADE" else " RESTRICT"

/-! ## Roles -/

/-- Reads a password after its keyword. -/
def password (g : Grammar) : Parser Phrase := do
  if ← keyword "NULL" then return " PASSWORD NULL" else return " PASSWORD " ++ (← value g)

/-- What a role can do or not, in the order of writing. -/
def roleSwitches : List String :=
  ["SUPERUSER", "CREATEDB", "CREATEROLE", "INHERIT", "LOGIN", "REPLICATION", "BYPASSRLS"]

/-- The slot of a new role that a keyword fills, in the order of writing. -/
def roleSlot (k : String) : Option Nat :=
  match roleSwitches.findIdx? fun s => k == s || k == "NO" ++ s with
  | some i => some i
  | none =>
    match k with
    | "CONNECTION" => some 7
    | "PASSWORD" => some 8
    | "VALID" => some 9
    | "IN ROLE" => some 10
    | "IN GROUP" => some 11
    | "ROLE" => some 12
    | "USER" => some 13
    | "ADMIN" => some 14
    | "AUTHORIZATION" => some 15
    | _ => none

/-- The keywords of the options of a role. -/
def roleKeywords (g : Grammar) : List String :=
  match g with
  | .tsql => ["AUTHORIZATION"]
  | .postgres =>
    roleSwitches ++ roleSwitches.map ("NO" ++ ·) ++
      ["PASSWORD", "CONNECTION", "VALID", "IN", "ROLE", "ADMIN", "USER"]
  | _ => []

/-- Reads the value of an option of a role after its keyword. -/
def roleValue (g : Grammar) (k : String) : Parser Phrase := do
  match k with
  | "AUTHORIZATION" => return " AUTHORIZATION " ++ (← objectName g)
  | "PASSWORD" => password g
  | "CONNECTION" =>
    expectKeyword "LIMIT"
    return " CONNECTION LIMIT " ++ (← numberValue g)
  | "VALID" =>
    expectKeyword "UNTIL"
    return " VALID UNTIL " ++ (← value g)
  | "IN ROLE" | "IN GROUP" | "ROLE" | "USER" | "ADMIN" =>
    return " " ++ k ++ " " ++ (← identsPhrase g)
  | _ => return (" " ++ k : String)

/-- Reads the options of a new role. Each is said at most once; they are written in order. -/
def roleOptions (g : Grammar) : Nat → List (Nat × Phrase) → Parser (List (Nat × Phrase))
  | 0, _ => fail
  | fuel + 1, found => do
    match ← oneOf (roleKeywords g) with
    | none => return found
    | some k =>
      let k ← if k == "IN" then do pure ("IN " ++ (← expectOneOf ["ROLE", "GROUP"])) else pure k
      match roleSlot k with
      | none => fail
      | some slot =>
        if found.any (·.1 == slot) then fail
        let phrase ← roleValue g k
        roleOptions g fuel (found ++ [(slot, phrase)])

/-- Reads a `CREATE ROLE` after its keywords. -/
def createRole (g : Grammar) : Parser Phrase := do
  let exists' ← ifNotExists
  let names ← namesPhrase g
  let _ ← keyword "WITH"
  let options ← roleOptions g ((← get).length + 1) []
  return "CREATE ROLE " ++ exists' ++ names ++
    ((List.range 16).flatMap fun slot => (options.lookup slot).getD [])

/-- Reads an option of a changed role. -/
def alteredRoleOption (g : Grammar) : Parser Phrase := do
  let k ← expectOneOf (roleSwitches ++ roleSwitches.map ("NO" ++ ·) ++
    ["CONNECTION", "PASSWORD", "VALID"])
  roleValue g k

/-- Reads the value that a setting of a role gets. -/
def roleSetting (g : Grammar) (r : Nested) : Parser Phrase := do
  let name ← objectName g
  if ← keywords ["FROM", "CURRENT"] then return "SET " ++ name ++ " FROM CURRENT"
  let sign ← symbol "="
  unless sign do expectKeyword "TO"
  if ← keyword "DEFAULT" then return "SET " ++ name ++ " TO DEFAULT"
  else return "SET " ++ name ++ " TO " ++ (← anyExpr r)

/-- Reads the database that a setting of a role is for, if it is said. -/
def roleDatabase (g : Grammar) : Parser Phrase := do
  unless ← keywords ["IN", "DATABASE"] do return []
  match ← maybe (objectName g) with
  | some name => return "IN DATABASE " ++ name ++ " "
  | none => return []

/-- Reads an `ALTER ROLE` after its keywords. -/
def alterRole (g : Grammar) (r : Nested) : Parser Phrase := do
  let name ← ident
  let opening : Phrase := "ALTER ROLE " ++ name ++ " "
  if g == .tsql then
    if ← keywords ["ADD", "MEMBER"] then return opening ++ "ADD MEMBER " ++ (← ident)
    else if ← keywords ["DROP", "MEMBER"] then return opening ++ "DROP MEMBER " ++ (← ident)
    else
      expectKeywords ["WITH", "NAME"]
      expect "="
      return opening ++ "RENAME TO " ++ (← ident)
  else if g == .postgres then
    let database ← roleDatabase g
    if ← keyword "RENAME" then
      expectKeyword "TO"
      return opening ++ "RENAME TO " ++ (← ident)
    else if ← keyword "SET" then return opening ++ database ++ (← roleSetting g r)
    else if ← keyword "RESET" then
      if ← keyword "ALL" then return opening ++ database ++ "RESET ALL"
      else return opening ++ database ++ "RESET " ++ (← objectName g)
    else
      let _ ← keyword "WITH"
      match ← many (maybe (alteredRoleOption g)) with
      | [] => fail
      | options => return opening ++ "WITH" ++ options.flatten
  else fail

/-! ## Policies -/

/-- Reads an owner. -/
def owner : Parser Phrase := do
  match ← oneOf ["CURRENT_USER", "CURRENT_ROLE", "SESSION_USER"] with
  | some k => return k
  | none => return (← ident)

/-- Reads whom a policy is for and what it checks. -/
def policyRules (g : Grammar) (r : Nested) : Parser Phrase := do
  let owners ← clause ["TO"] (list g owner)
  let using' ← clause ["USING"] (inParens (exprPhrase r))
  return owners ++ using' ++ (← clause ["WITH", "CHECK"] (inParens (exprPhrase r)))

/-- Reads the name of a policy and of its table. -/
def policyName (g : Grammar) : Parser Phrase := do
  let name ← ident
  expectKeyword "ON"
  return name ++ " ON " ++ (← objectName g)

/-- Reads a `CREATE POLICY` after its keywords. -/
def createPolicy (g : Grammar) (r : Nested) : Parser Phrase := do
  let name ← policyName g
  let kind ← clause ["AS"] do return (← expectOneOf ["PERMISSIVE", "RESTRICTIVE"])
  let command ← clause ["FOR"] do
    return (← expectOneOf ["ALL", "SELECT", "INSERT", "UPDATE", "DELETE"])
  return "CREATE POLICY " ++ name ++ kind ++ command ++ (← policyRules g r)

/-- Reads an `ALTER POLICY` after its keywords. -/
def alterPolicy (g : Grammar) (r : Nested) : Parser Phrase := do
  let name ← policyName g
  if ← keyword "RENAME" then
    expectKeyword "TO"
    return "ALTER POLICY " ++ name ++ " RENAME TO " ++ (← ident)
  else return "ALTER POLICY " ++ name ++ (← policyRules g r)

end DatasetSql.Statement.Parser
