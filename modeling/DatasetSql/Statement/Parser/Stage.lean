import DatasetSql.Statement.Parser.Table

/-!
# Reading stages

Places that files are loaded from: how they are made and how rows are copied from them. The words
before `STAGE` are those before `TABLE` in the same grammar.
-/

namespace DatasetSql.Statement.Parser

/-- The words before `TABLE` or `STAGE`, where they may stand in any grammar of one kind. -/
structure Opening where
  replaced : Phrase
  scope : Phrase
  temporary : Phrase
  kind : Phrase

/-- Reads the words before `TABLE` or `STAGE`. -/
def opening : Parser Opening := do
  let replaced : Phrase := onlyText (← keywords ["OR", "REPLACE"]) "OR REPLACE "
  let scope : Phrase := match ← oneOf ["LOCAL", "GLOBAL"] with
    | some k => (k ++ " " : String)
    | none => []
  match ← oneOf ["TEMP", "TEMPORARY", "VOLATILE", "TRANSIENT"] with
  | some "VOLATILE" => return ⟨replaced, scope, [], "VOLATILE "⟩
  | some "TRANSIENT" => return ⟨replaced, scope, [], "TRANSIENT "⟩
  | some _ => return ⟨replaced, scope, "TEMPORARY ", []⟩
  | none => return ⟨replaced, scope, [], []⟩

/-! ## Stages -/

/-- Reads options of a stage after the opening parenthesis, at most so many. -/
def stageOptions : Nat → Parser (List String)
  | 0 => fail
  | fuel + 1 => do
    match ← next with
    | .symbol ")" => return []
    | .word i _ =>
      expect "="
      let text ← do
        match ← oneOf ["TRUE", "FALSE"] with
        | some k => pure k
        | none =>
          match ← next with
          | .literal (.string s) => pure (plainQuoted s)
          | .literal (.number s _) => pure s
          | .word w _ => pure w.value
          | _ => fail
      return (i.value ++ "=" ++ text) :: (← stageOptions fuel)
    | _ => fail

/-- Reads options of a stage in parentheses, if a keyword comes next. -/
def stageClause (k : String) : Parser Phrase := do
  unless ← keyword k do return []
  expect "="
  expect "("
  match ← stageOptions ((← get).length + 1) with
  | [] => return []
  | options => return " " ++ k ++ "=(" ++ Text.joined " " options ++ ")"

/-- Reads a string that a stage is given, if a keyword comes next. -/
def stageString (k : String) : Parser Phrase := do
  unless ← keyword k do return []
  expect "="
  return " " ++ k ++ "=" ++ plainQuoted (← singleQuoted)

/-- Reads where the files of a stage are and how they are reached. -/
def stagePlace : Parser Phrase := do
  let url ← stageString "URL"
  let integration : Phrase ←
    if ← keyword "STORAGE_INTEGRATION" then do
      expect "="
      let l ← next
      pure (" STORAGE_INTEGRATION=" ++ l.text : Phrase)
    else pure []
  let endpoint ← stageString "ENDPOINT"
  let credentials ← stageClause "CREDENTIALS"
  return url ++ integration ++ endpoint ++ credentials ++ (← stageClause "ENCRYPTION")

/-- Reads a `CREATE STAGE` after its keywords. -/
def createStage (g : Grammar) (o : Opening) : Parser Phrase := do
  let exists' ← ifNotExists
  let name ← objectName g
  let place ← stagePlace
  let directory ← stageClause "DIRECTORY"
  let format ← stageClause "FILE_FORMAT"
  let copying ← stageClause "COPY_OPTIONS"
  let comment ← stageString "COMMENT"
  return "CREATE " ++ o.replaced ++ o.temporary ++ "STAGE " ++ exists' ++ name ++ place ++
    directory ++ format ++ copying ++ comment

/-! ## Copying from stages -/

/-- Reads the rest of the name of a stage: signs between words. -/
def stageNameFrom : Nat → Bool → Parser String
  | 0, _ => fail
  | fuel + 1, afterWord => do
    match ← peek with
    | some (.symbol s) =>
      if ["@", "~", "%", "/", "."].contains s then
        skip
        return s ++ (← stageNameFrom fuel false)
      else return ""
    | some (.word i _) =>
      if afterWord then return ""
      skip
      return i.value ++ (← stageNameFrom fuel true)
    | _ => return ""

/-- Reads the name of a stage or of a table. -/
def stageName (g : Grammar) : Parser Phrase := do
  if ← peekSymbol "@" then return (← stageNameFrom ((← get).length + 1) false)
  else return (← objectName g)

/-- Reads strings between commas, at most so many. -/
def stageFiles : Nat → Parser (List String)
  | 0 => fail
  | fuel + 1 => do
    let s ← singleQuoted
    if ← symbol "," then return plainQuoted s :: (← stageFiles fuel) else return [plainQuoted s]

/-- Reads a `COPY INTO` after its keywords. -/
def copyInto (g : Grammar) : Parser Phrase := do
  let target ← stageName g
  expectKeyword "FROM"
  let stage ← stageName g
  let place ← stagePlace
  let asName : Phrase ←
    if ← keyword "AS" then do
      match ← next with
      | .word i _ => pure (" AS " ++ i.value : Phrase)
      | _ => fail
    else pure []
  let files : Phrase ←
    if ← keyword "FILES" then do
      expect "="
      let files ← parenthesized do stageFiles ((← get).length + 1)
      pure (" FILES = (" ++ Text.joined ", " files ++ ")" : Phrase)
    else pure []
  let pattern : Phrase ←
    if ← keyword "PATTERN" then do
      expect "="
      pure (" PATTERN = " ++ plainQuoted (← singleQuoted) : Phrase)
    else pure []
  let format ← stageClause "FILE_FORMAT"
  let copying ← stageClause "COPY_OPTIONS"
  let mode : Phrase ←
    if ← keyword "VALIDATION_MODE" then do
      expect "="
      let l ← next
      pure (" VALIDATION_MODE = " ++ l.text : Phrase)
    else pure []
  return "COPY INTO " ++ target ++ " FROM " ++ stage ++ place ++ asName ++ files ++ pattern ++
    format ++ copying ++ mode

end DatasetSql.Statement.Parser
