import DatasetSql.Statement.Parser.Core

/-!
# Reading data types

Types of the language are brought to one spelling; any other name is a type of its own, whose
arguments are kept as they are. Types in angle brackets may end in one lexeme that closes two of
them, so a reader tells whether it has also taken the closing bracket of the type around it.
-/

namespace DatasetSql.Statement.Parser

/-! ## Lengths and precisions -/

/-- Reads a length or precision in parentheses, if there is one. -/
def precision : Parser String := do
  if ← symbol "(" then
    let n ← natural
    expect ")"
    return "(" ++ toString n ++ ")"
  else return ""

/-- Reads a precision and a scale in parentheses, if there are any. -/
def precisionAndScale : Parser String := do
  if ← symbol "(" then
    let n ← natural
    let scale ← if ← symbol "," then pure ("," ++ toString (← natural)) else pure ""
    expect ")"
    return "(" ++ toString n ++ scale ++ ")"
  else return ""

/-- Reads the length of a character type, if there is one. -/
def characterLength : Parser String := do
  if ← symbol "(" then
    let text ← if ← keyword "MAX" then pure "MAX"
      else do
        let n ← natural
        match ← oneOf ["CHARACTERS", "OCTETS"] with
        | some unit => pure (toString n ++ " " ++ unit)
        | none => pure (toString n)
    expect ")"
    return "(" ++ text ++ ")"
  else return ""

/-- Reads what a type says about time zones. -/
def timeZone : Parser String := do
  if ← keyword "WITH" then
    expectKeywords ["TIME", "ZONE"]
    return " WITH TIME ZONE"
  else if ← keyword "WITHOUT" then
    expectKeywords ["TIME", "ZONE"]
    return " WITHOUT TIME ZONE"
  else return ""

/-- Reads the arguments of a type up to the closing parenthesis. -/
def modifiersFrom : Nat → Parser (List String)
  | 0 => fail
  | fuel + 1 => do
    match ← next with
    | .word i _ => return rawIdent i :: (← modifiersFrom fuel)
    | .literal (.number n _) => return n :: (← modifiersFrom fuel)
    | .literal (.string s) => return s :: (← modifiersFrom fuel)
    | .symbol "," => modifiersFrom fuel
    | .symbol ")" => return []
    | _ => fail

/-! ## Types without types inside -/

/-- Types that are only a name. -/
def plainTypes : List String :=
  ["BOOLEAN", "BOOL", "REAL", "FLOAT4", "FLOAT64", "FLOAT8", "INT64", "TINYBLOB", "MEDIUMBLOB",
    "LONGBLOB", "UUID", "DATE", "JSON", "JSONB", "REGCLASS", "TEXT", "TINYTEXT", "MEDIUMTEXT",
    "LONGTEXT", "BYTEA", "TRIGGER"]

/-- Types whose spelling is not in capitals. -/
def mixedTypes : List (String × String) :=
  [("FLOAT32", "Float32"), ("INT16", "Int16"), ("INT32", "Int32"), ("INT128", "Int128"),
    ("INT256", "Int256"), ("UINT8", "UInt8"), ("UINT16", "UInt16"), ("UINT32", "UInt32"),
    ("UINT64", "UInt64"), ("UINT128", "UInt128"), ("UINT256", "UInt256"), ("DATE32", "Date32")]

/-- Integer types, which may have a width and no sign. -/
def integerTypes : List String :=
  ["TINYINT", "INT2", "SMALLINT", "MEDIUMINT", "INT", "INT4", "INT8", "INTEGER", "BIGINT"]

/-- Types with a length or a precision. -/
def sizedTypes : List String :=
  ["FLOAT", "CLOB", "BINARY", "VARBINARY", "BLOB", "BYTES", "DATETIME", "STRING"]

/-- Character types with a length. -/
def characterTypes : List String := ["VARCHAR", "NVARCHAR"]

/-- Exact numbers with precision and scale. -/
def exactTypes : List String := ["NUMERIC", "DECIMAL", "DEC", "BIGNUMERIC", "BIGDECIMAL"]

/-- Reads a member of an enumeration. -/
def enumMember (g : Grammar) : Parser String := do
  let name := quoted '\'' (← literalString g)
  unless ← symbol "=" do return name
  let sign ← if ← symbol "+" then pure "+" else if ← symbol "-" then pure "-" else pure ""
  return name ++ " = " ++ sign ++ (← numberValue g).text

/-- Reads strings between commas up to a closing parenthesis. -/
def stringsFrom : Nat → Parser (List String)
  | 0 => fail
  | fuel + 1 => do
    match ← next with
    | .literal (.string s) =>
      if ← symbol "," then return quoted '\'' s :: (← stringsFrom fuel)
      expect ")"
      return [quoted '\'' s]
    | _ => fail

/-- Reads the rest of a type without types inside, after its first word; none if there is no such
type. -/
def simpleType (g : Grammar) (k : String) : Parser (Option String) := do
  if plainTypes.contains k then return some k
  else if let some text := mixedTypes.lookup k then return some text
  else if integerTypes.contains k then
    let width ← precision
    return some (k ++ width ++ if ← keyword "UNSIGNED" then " UNSIGNED" else "")
  else if sizedTypes.contains k then return some (k ++ (← precision))
  else if characterTypes.contains k then return some (k ++ (← characterLength))
  else if exactTypes.contains k then return some (k ++ (← precisionAndScale))
  else
  match k with
  | "DOUBLE" => return some (if ← keyword "PRECISION" then "DOUBLE PRECISION" else "DOUBLE")
  | "CHARACTER" | "CHAR" =>
    if ← keyword "VARYING" then return some (k ++ " VARYING" ++ (← characterLength))
    else if ← keywords ["LARGE", "OBJECT"] then
      return some (k ++ " LARGE OBJECT" ++ (← precision))
    else return some (k ++ (← characterLength))
  | "BIT" =>
    if ← keyword "VARYING" then return some ("BIT VARYING" ++ (← precision))
    else return some ("BIT" ++ (← precision))
  | "TIMESTAMP" | "TIME" =>
    let n ← precision
    return some (k ++ n ++ (← timeZone))
  | "TIMESTAMPTZ" | "TIMETZ" => return some (k ++ (← precision))
  | "DATETIME64" =>
    expect "("
    let n ← natural
    let zone ← if ← symbol "," then pure (", " ++ plainQuoted (← literalString g)) else pure ""
    expect ")"
    return some ("DateTime64(" ++ toString n ++ zone ++ ")")
  | "FIXEDSTRING" => return some ("FixedString(" ++ toString (← parenthesized natural) ++ ")")
  | "ENUM" | "ENUM8" | "ENUM16" =>
    let members ← parenthesized (separated (trailingCommas g) (enumMember g))
    return some (k ++ "(" ++ Text.joined ", " members ++ ")")
  | "SET" =>
    expect "("
    return some ("SET(" ++ Text.joined ", " (← stringsFrom ((← get).length)) ++ ")")
  | _ => return none

/-! ## Types of types -/

/-- A type, and whether the bracket that closes the type around it was taken with its own. -/
abbrev Closing := DataType × Bool

/-- Closes an angle bracket, unless it was closed before. -/
def closeAngle (closed : Bool) : Parser Bool := do
  if closed then return false
  else if ← symbol ">" then return false
  else
    expect ">>"
    return true

/-- Reads the brackets of array types. -/
def arraySuffixes (g : Grammar) : Nat → DataType → Parser DataType
  | 0, t => return t
  | fuel + 1, t => do
    unless ← symbol "[" do return t
    let size ← if g == .generic || g == .duckdb || g == .postgres then maybe natural else pure none
    expect "]"
    arraySuffixes g fuel ⟨.standard, t.text ++ "[" ++ (size.map toString).getD "" ++ "]"⟩

/-- Reads a type that no closing bracket was taken with. -/
def closedType (type : Parser Closing) : Parser String := do
  let (t, closed) ← type
  if closed then fail else return t.text

/-- Reads a name and a type. -/
def namedField (type : Parser Closing) : Parser String := do
  let name ← ident
  return name.text ++ " " ++ (← closedType type)

/-- Reads a field of a structure; its name may be left out. -/
def field (type : Parser Closing) : Parser (String × Bool) := do
  let named ← match ← get with
    | .word _ _ :: .word _ _ :: _ => pure true
    | _ => pure false
  let name ← if named then pure ((← ident).text ++ " ") else pure ""
  let (t, closed) ← type
  return (name ++ t.text, closed)

/-- Reads the fields of a structure in angle brackets, at most so many. -/
def angleFields (type : Parser Closing) : Nat → Parser (List String × Bool)
  | 0 => fail
  | fuel + 1 => do
    let (f, closed) ← field type
    if ← symbol "," then
      if closed then fail
      let (fs, closed) ← angleFields type fuel
      return (f :: fs, closed)
    else return ([f], ← closeAngle closed)

/-- Reads the field types of a structure after its keyword, if there are any. -/
def structFields (type : Parser Closing) : Parser (List String × Bool) := do
  if ← symbol "<" then angleFields type ((← get).length + 1) else return ([], false)

/-- A structure with the given fields. -/
def structText (fields : List String) : String :=
  if fields.isEmpty then "STRUCT" else "STRUCT<" ++ Text.joined ", " fields ++ ">"

/-- A type of the language that closes nothing around it. -/
def standardType (text : String) : Option Closing := some (⟨.standard, text⟩, false)

/-- Reads the rest of a type of the language after its first word; none if there is no such type.
Types inside are read by `type`. -/
def compositeType (g : Grammar) (type : Parser Closing) (k : String) :
    Parser (Option Closing) := do
  let wrapped (name : String) : Parser (Option Closing) := do
    return standardType (name ++ "(" ++ (← parenthesized (closedType type)) ++ ")")
  let fieldList (name : String) (field : Parser String) : Parser (Option Closing) := do
    let fields ← parenthesized (separated (trailingCommas g) field)
    return standardType (name ++ "(" ++ Text.joined ", " fields ++ ")")
  match k with
  | "INTERVAL" => return some (⟨.interval, "INTERVAL"⟩, false)
  | "ARRAY" =>
    if g == .snowflake then return standardType "ARRAY"
    expect "<"
    let (element, closed) ← type
    return some (⟨.standard, "ARRAY<" ++ element.text ++ ">"⟩, ← closeAngle closed)
  | "STRUCT" =>
    if g == .duckdb then fieldList "STRUCT" (namedField type)
    else if g == .bigquery || g == .generic then
      let (fields, closed) ← structFields type
      return some (⟨.standard, structText fields⟩, closed)
    else return none
  | "UNION" =>
    if g == .duckdb || g == .generic then fieldList "UNION" (namedField type) else return none
  | _ =>
    if g != .generic then return none
    match k with
    | "NULLABLE" => wrapped "Nullable"
    | "LOWCARDINALITY" => wrapped "LowCardinality"
    | "MAP" =>
      expect "("
      let key ← closedType type
      expect ","
      let value ← closedType type
      expect ")"
      return standardType ("Map(" ++ key ++ ", " ++ value ++ ")")
    | "NESTED" => fieldList "Nested" (namedField type)
    | "TUPLE" =>
      fieldList "Tuple" do return (← field type).1
    | _ => return none

/-- Reads a type that only its name tells. -/
def customType (g : Grammar) : Parser DataType := do
  let name ← objectName g
  let modifiers ← if ← symbol "(" then modifiersFrom ((← get).length + 1) else pure []
  return ⟨.custom, nameText name ++
    if modifiers.isEmpty then "" else "(" ++ Text.joined ", " modifiers ++ ")"⟩

/-- Reads a type, nested at most so often. -/
def dataTypeFrom (g : Grammar) : Nat → Parser Closing
  | 0 => fail
  | fuel + 1 => do
    let start ← get
    let l ← next
    unless l matches .word _ _ do fail
    let (base, closed) ← do
      let k := l.keyword?.getD ""
      match ← simpleType g k with
      | some text => pure (DataType.mk .standard text, false)
      | none =>
        match ← compositeType g (dataTypeFrom g fuel) k with
        | some found => pure found
        | none =>
          set start
          pure (← customType g, false)
    return (← arraySuffixes g ((← get).length) base, closed)

/-- Reads a type and tells whether it took a bracket too many. -/
def openType (g : Grammar) : Parser Closing := do
  dataTypeFrom g ((← get).length + 1)

/-- Reads a type. -/
def dataType (g : Grammar) : Parser DataType := do
  let (t, closed) ← openType g
  if closed then fail else return t

end DatasetSql.Statement.Parser
