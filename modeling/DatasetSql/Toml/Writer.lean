import DatasetSql.Json.Basic
import DatasetSql.Text.Search
import DatasetSql.Numeric.Shortest

/-!
# TOML text

A value is written as sections: first what fits on one line, then each table under a header of its
own. TOML has no null, so a value that contains one has no text.
-/

namespace DatasetSql.Toml

open DatasetSql.Numeric

/-! ## Texts and keys -/

/-- What there is in a text that decides how it is quoted. -/
structure TextTraits where
  /-- The longest run of single quotes. -/
  singleQuotes : Nat := 0
  /-- The longest run of double quotes. -/
  doubleQuotes : Nat := 0
  /-- A control character other than a tab or a line break. -/
  control : Bool := false
  backslash : Bool := false
  newline : Bool := false

/-- The longest run of a character, given the length of the run that is being counted. -/
def longestRun (c : Char) : Nat → List Char → Nat
  | run, [] => run
  | run, d :: rest => if d == c then longestRun c (run + 1) rest else max run (longestRun c 0 rest)

/-- Whether a character can only be written as an escape. -/
def isControl (c : Char) : Bool :=
  (c.toNat < 32 && c != '\t' && c != '\n') || c.toNat == 127

/-- What there is in a text. -/
def TextTraits.of (cs : List Char) : TextTraits where
  singleQuotes := longestRun '\'' 0 cs
  doubleQuotes := longestRun '"' 0 cs
  control := cs.any isControl
  backslash := cs.contains '\\'
  newline := cs.contains '\n'

/-- A hexadecimal digit in upper case. -/
def upperHexDigit (n : Nat) : Char :=
  if n < 10 then Char.ofNat (48 + n) else Char.ofNat (55 + n)

/-- The escape of a control character or a backslash. -/
def escapeText (c : Char) : List Char :=
  if c == '\\' then ['\\', '\\']
  else if c == '\t' then ['\\', 't']
  else if c == '\n' then ['\\', 'n']
  else if c == '\r' then ['\\', 'r']
  else if c.toNat == 8 then ['\\', 'b']
  else if c.toNat == 12 then ['\\', 'f']
  else ['\\', 'u', '0', '0', upperHexDigit (c.toNat / 16), upperHexDigit (c.toNat % 16)]

/-- A text between double quotes, without the quotes. Of the quotes in a row, `allowed` stand for
themselves and the next one is escaped; `run` counts them. -/
def basicBody (lines : Bool) (allowed : Nat) : Nat → List Char → List Char
  | _, [] => []
  | run, c :: rest =>
    if c == '"' then
      if run < allowed then '"' :: basicBody lines allowed (run + 1) rest
      else '\\' :: '"' :: basicBody lines allowed 0 rest
    else if c == '\n' && lines then '\n' :: basicBody lines allowed 0 rest
    else if c == '\\' || c.toNat < 32 || c.toNat == 127 then
      escapeText c ++ basicBody lines allowed 0 rest
    else c :: basicBody lines allowed 0 rest

/-- A text on one line with escapes. -/
def basicText (cs : List Char) : String :=
  "\"" ++ String.ofList (basicBody false 0 0 cs) ++ "\""

/-- A text between triple quotes; one with line breaks starts on a line of its own. -/
def tripleQuoted (quotes : String) (newline : Bool) (body : List Char) : String :=
  quotes ++ (if newline then "\n" else "") ++ String.ofList body ++ quotes

/-- A text in the first of these that needs no escape: double quotes, single quotes, triple double
quotes, triple single quotes; otherwise in double quotes with escapes. -/
def stringText (s : String) : String :=
  let cs := s.toList
  let t := TextTraits.of cs
  let lines := tripleQuoted "\"\"\"" t.newline (basicBody true 2 0 cs)
  if !t.control && !t.backslash && t.doubleQuotes == 0 && !t.newline then basicText cs
  else if !t.control && t.singleQuotes == 0 && !t.newline then "'" ++ s ++ "'"
  else if !t.control && !t.backslash && t.doubleQuotes ≤ 2 then lines
  else if !t.control && t.singleQuotes ≤ 2 then tripleQuoted "'''" t.newline cs
  else if t.newline then lines
  else basicText cs

/-- Whether a key without quotes may contain this character. -/
def isBareKeyChar (c : Char) : Bool := c.isAlphanum || c == '_' || c == '-'

/-- A key, in quotes only if it needs them. -/
def keyText (key : String) : String :=
  let cs := key.toList
  let t := TextTraits.of cs
  let control := t.control || t.newline
  if !cs.isEmpty && cs.all isBareKeyChar then key
  else if !control && !t.backslash && t.doubleQuotes == 0 then basicText cs
  else if !control && t.singleQuotes == 0 then "'" ++ key ++ "'"
  else basicText cs

/-! ## Values on one line -/

/-- Numbers have no exponent. -/
def floatLayout : FloatLayout := ⟨fun _ => true, ""⟩

/-- The text of a number. -/
def numberText : Json.Number → String
  | .int i => toString i
  | .float x => floatLayout.text x

mutual

/-- A value on one line, unless there is a null in it. -/
def inlineText? : Json.Value → Option String
  | .null => none
  | .bool b => some (if b then "true" else "false")
  | .number n => some (numberText n)
  | .string s => some (stringText s)
  | .array items => do return "[" ++ Text.joined ", " (← inlineItems? items) ++ "]"
  | .object entries => do
    let parts ← inlineEntries? entries
    return if parts.isEmpty then "\x7b\x7d" else "\x7b " ++ Text.joined ", " parts ++ " \x7d"

/-- The items of an array. -/
def inlineItems? : List Json.Value → Option (List String)
  | [] => some []
  | v :: vs => do return (← inlineText? v) :: (← inlineItems? vs)

/-- The entries of an inline table. -/
def inlineEntries? : List (String × Json.Value) → Option (List String)
  | [] => some []
  | (k, v) :: es => do return (keyText k ++ " = " ++ (← inlineText? v)) :: (← inlineEntries? es)

end

/-! ## Sections -/

/-- Whether a value is a table. -/
def isTable : Json.Value → Bool
  | .object _ => true
  | _ => false

/-- Whether a value has sections of its own: a table, or a list of tables that is not empty. -/
def hasSections : Json.Value → Bool
  | .object _ => true
  | .array items => !items.isEmpty && items.all isTable
  | _ => false

/-- The lines of a table that have no section of their own. -/
def bodyText? : List (String × Json.Value) → Option String
  | [] => some ""
  | (k, v) :: es => do
    let rest ← bodyText? es
    if hasSections v then return rest
    else return keyText k ++ " = " ++ (← inlineText? v) ++ "\n" ++ rest

/-- The path of a header. -/
def pathText (path : List String) : String := Text.joined "." (path.map keyText)

/-- The section of a table by itself. A table that only holds other tables needs no header, but an
item of a list always has one. -/
def ownSection? (path : List String) (repeated : Bool) (entries : List (String × Json.Value)) :
    Option (List String) := do
  let body ← bodyText? entries
  if path.isEmpty then return if body.isEmpty then [] else [body]
  else if repeated then return ["[[" ++ pathText path ++ "]]\n" ++ body]
  else if body.isEmpty && entries.any (hasSections ·.2) then return []
  else return ["[" ++ pathText path ++ "]\n" ++ body]

mutual

/-- The sections of a value at a path: its own, then those of what is in it. -/
def sections? (path : List String) (repeated : Bool) : Json.Value → Option (List String)
  | .object entries => do
    return (← ownSection? path repeated entries) ++ (← entrySections? path entries)
  | .array items =>
    if hasSections (.array items) then itemSections? path items else some []
  | _ => some []

/-- The sections of the entries of a table. -/
def entrySections? (path : List String) : List (String × Json.Value) → Option (List String)
  | [] => some []
  | (k, v) :: es => do return (← sections? (path ++ [k]) false v) ++ (← entrySections? path es)

/-- The sections of a list of tables. -/
def itemSections? (path : List String) : List Json.Value → Option (List String)
  | [] => some []
  | v :: vs => do return (← sections? path true v) ++ (← itemSections? path vs)

end

/-- The text of a document: sections with empty lines between them. -/
def render? (v : Json.Value) : Option String := do
  return Text.joined "\n" (← sections? [] false v)

end DatasetSql.Toml
