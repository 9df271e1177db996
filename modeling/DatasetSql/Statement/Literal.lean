import DatasetSql.Statement.Basic
import DatasetSql.Text.Search

/-!
# Writing names and literals

The text of an identifier in its delimiters, and of a literal in its quotes.
-/

namespace DatasetSql.Statement

open DatasetSql.Text (joined)

/-! ## Quotes -/

/-- Writes the quotes inside a quoted text. A quote is doubled, unless it follows a backslash; two
quotes in a row are taken for one that is doubled already. `pair` says that the quote before was
just doubled, `previous` is the character before. -/
def escapeQuotes (quote : Char) : Char → Bool → List Char → List Char
  | _, _, [] => []
  | previous, pair, c :: cs =>
    if c != quote then c :: escapeQuotes quote c false cs
    else if pair then escapeQuotes quote c false cs
    else if previous == '\\' then c :: escapeQuotes quote previous false cs
    else c :: c :: escapeQuotes quote c true cs

/-- A text between quotes. -/
def quoted (quote : Char) (s : String) : String :=
  String.ofList (quote :: escapeQuotes quote '\x00' false s.toList ++ [quote])

/-- A text between single quotes that is not escaped. -/
def plainQuoted (s : String) : String := "'" ++ s ++ "'"

/-! ## Names -/

/-- An identifier in the delimiters it carries; brackets are not escaped. -/
def Ident.text (i : Ident) : String :=
  match i.quote with
  | none => i.value
  | some '[' => "[" ++ i.value ++ "]"
  | some q => quoted q i.value

/-- Identifiers between commas. -/
def identList (is : List Ident) : String := joined ", " (is.map Ident.text)

/-- The parts of a name between dots. -/
def nameText (name : ObjectName) : String := joined "." (name.map Ident.text)

/-- Names between commas. -/
def nameList (names : List ObjectName) : String := joined ", " (names.map nameText)

/-! ## Literals -/

/-- A character of a string with backslash sequences. -/
def escapedChar : Char → String
  | '\'' => "\\'"
  | '\\' => "\\\\"
  | '\n' => "\\n"
  | '\t' => "\\t"
  | '\r' => "\\r"
  | c => String.singleton c

/-- A number in capital hexadecimal digits, at least so many. -/
def hexDigits (width n : Nat) : String :=
  let digits := (Nat.toDigits 16 n).map Char.toUpper
  String.ofList (List.replicate (width - digits.length) '0' ++ digits)

/-- A character of a string with numbered characters. -/
def numberedChar (c : Char) : String :=
  if c == '\'' then "''"
  else if c == '\\' then "\\\\"
  else if c.toNat < 128 then String.singleton c
  else if c.toNat ≤ 0xffff then "\\" ++ hexDigits 4 c.toNat
  else "\\+" ++ hexDigits 6 c.toNat

/-- The text of a literal. -/
def Value.text : Value → String
  | .number text long => text ++ if long then "L" else ""
  | .string s => quoted '\'' s
  | .doubleQuoted s => quoted '"' s
  | .tripleQuoted q s => q.text true ++ s ++ q.text true
  | .marked mark q triple s => mark.letter ++ q.text triple ++ s ++ q.text triple
  | .escaped s => "E'" ++ joined "" (s.toList.map escapedChar) ++ "'"
  | .numbered s => "U&'" ++ joined "" (s.toList.map numberedChar) ++ "'"
  | .dollarQuoted tag s => "$" ++ tag ++ "$" ++ s ++ "$" ++ tag ++ "$"
  | .boolean b => if b then "true" else "false"
  | .null => "NULL"
  | .placeholder s => s

end DatasetSql.Statement
