import DatasetSql.Json.Basic
import DatasetSql.Text.Search

/-!
# JSON text

A value is written either on one line without blanks or over several lines with two blanks for
each level.
-/

namespace DatasetSql.Json

open DatasetSql.Numeric

/-- Numbers from `0.00001` up to sixteen places before the point have no exponent, and a positive
exponent has a plus sign. -/
def floatLayout : FloatLayout := ⟨fun point => decide (-5 < point) && decide (point ≤ 16), "+"⟩

/-- The text of a number. -/
def Number.text : Number → String
  | .int i => toString i
  | .float x => floatLayout.text x

/-- A hexadecimal digit in lower case. -/
def hexDigit (n : Nat) : Char :=
  if n < 10 then Char.ofNat (48 + n) else Char.ofNat (87 + n)

/-- A character inside a string. -/
def escapeChar (c : Char) : List Char :=
  if c == '"' then ['\\', '"']
  else if c == '\\' then ['\\', '\\']
  else if c == '\n' then ['\\', 'n']
  else if c == '\r' then ['\\', 'r']
  else if c == '\t' then ['\\', 't']
  else if c.toNat == 8 then ['\\', 'b']
  else if c.toNat == 12 then ['\\', 'f']
  else if c.toNat < 32 then
    ['\\', 'u', '0', '0', hexDigit (c.toNat / 16), hexDigit (c.toNat % 16)]
  else [c]

/-- A text as a JSON string. -/
def stringText (s : String) : String :=
  "\"" ++ String.ofList (s.toList.flatMap escapeChar) ++ "\""

mutual

/-- A value on one line without blanks. -/
def Value.compact : Value → String
  | .null => "null"
  | .bool b => if b then "true" else "false"
  | .number n => n.text
  | .string s => stringText s
  | .array xs => "[" ++ Text.joined "," (compactItems xs) ++ "]"
  | .object es => "\x7b" ++ Text.joined "," (compactEntries es) ++ "\x7d"

/-- The items of an array, each on one line. -/
def compactItems : List Value → List String
  | [] => []
  | x :: xs => x.compact :: compactItems xs

/-- The entries of an object, each on one line. -/
def compactEntries : List (String × Value) → List String
  | [] => []
  | (k, v) :: es => (stringText k ++ ":" ++ v.compact) :: compactEntries es

end

/-- A line break followed by the blanks of a level. -/
def newline (level : Nat) : String :=
  String.ofList ('\n' :: List.replicate (2 * level) ' ')

/-- Parts on lines of their own between brackets; nothing between them if there is no part. -/
def block (opening closing : String) (level : Nat) (parts : List String) : String :=
  if parts.isEmpty then opening ++ closing
  else
    opening ++ newline (level + 1) ++ Text.joined ("," ++ newline (level + 1)) parts ++
      newline level ++ closing

mutual

/-- A value over several lines, its brackets standing at the given level. -/
def Value.indented (level : Nat) : Value → String
  | .array xs => block "[" "]" level (indentedItems (level + 1) xs)
  | .object es => block "\x7b" "\x7d" level (indentedEntries (level + 1) es)
  | v => v.compact

/-- The items of an array over several lines. -/
def indentedItems (level : Nat) : List Value → List String
  | [] => []
  | x :: xs => x.indented level :: indentedItems level xs

/-- The entries of an object over several lines. -/
def indentedEntries (level : Nat) : List (String × Value) → List String
  | [] => []
  | (k, v) :: es => (stringText k ++ ": " ++ v.indented level) :: indentedEntries level es

end

/-- A value over several lines. -/
def Value.pretty (v : Value) : String := v.indented 0

end DatasetSql.Json
