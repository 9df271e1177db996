import DatasetSql.Dialect.Basic
import DatasetSql.Text.Letter

/-!
# Grammars

Which spellings a reader of SQL accepts. Dialects without a grammar of their own are read with the
generic one, which takes a little of everything.
-/

namespace DatasetSql.Statement

/-- A grammar that SQL is read with. -/
inductive Grammar where
  | generic
  | duckdb
  | postgres
  | mysql
  | tsql
  | snowflake
  | bigquery
  | redshift
deriving DecidableEq, Repr

namespace Grammar

/-- The grammar of a dialect; without a dialect the generic one. -/
def of : Option Dialect → Grammar
  | some .duckdb => .duckdb
  | some .postgres => .postgres
  | some .mysql => .mysql
  | some .tsql => .tsql
  | some .snowflake => .snowflake
  | some .bigquery => .bigquery
  | some .redshift => .redshift
  | some .databricks | some .oracle | none => .generic

/-! ## Letters and delimiters -/

/-- A letter of the ASCII range. -/
def isAsciiLetter (c : Char) : Bool := c.isAlpha

/-- Whether a bare identifier may start with this character. -/
def startsIdent (g : Grammar) (c : Char) : Bool :=
  match g with
  | .generic | .tsql => Text.isLetter c || c == '_' || c == '#' || c == '@'
  | .duckdb | .postgres => Text.isLetter c || c == '_'
  | .redshift => Text.isLetter c || c == '_' || c == '#'
  | .mysql =>
    Text.isLetter c || c == '_' || c == '$' || c == '@' || (0x80 ≤ c.toNat && c.toNat ≤ 0xffff)
  | .snowflake | .bigquery => isAsciiLetter c || c == '_'

/-- Whether a bare identifier may go on with this character. -/
def continuesIdent (g : Grammar) (c : Char) : Bool :=
  match g with
  | .generic | .tsql =>
    Text.isLetter c || c.isDigit || c == '@' || c == '$' || c == '#' || c == '_'
  | .duckdb | .postgres => Text.isLetter c || c.isDigit || c == '$' || c == '_'
  | .redshift => Text.isLetter c || c.isDigit || c == '$' || c == '_' || c == '#'
  | .mysql => g.startsIdent c || c.isDigit
  | .snowflake => isAsciiLetter c || c.isDigit || c == '$' || c == '_'
  | .bigquery => isAsciiLetter c || c.isDigit || c == '_'

/-- Whether this character opens a quoted identifier. -/
def opensIdent (g : Grammar) (c : Char) : Bool :=
  match g with
  | .generic | .duckdb | .snowflake => c == '"' || c == '`'
  | .postgres => c == '"'
  | .mysql | .bigquery => c == '`'
  | .tsql | .redshift => c == '"' || c == '['

/-- Whether an identifier in quotes must look like a bare one at its start. -/
def checksQuoted (g : Grammar) : Bool := g == .redshift

/-- Whether a backslash escapes a character of a string. -/
def escapesWithBackslash (g : Grammar) : Bool :=
  g == .mysql || g == .bigquery || g == .snowflake

/-- Whether three quotes open a string. -/
def tripleQuotes (g : Grammar) : Bool := g == .bigquery

/-- Whether `B` before a quote marks a string of bytes or bits. -/
def byteStrings (g : Grammar) : Bool :=
  g == .bigquery || g == .postgres || g == .mysql || g == .generic

/-- Whether `R` before a quote marks a string without escapes. -/
def rawStrings (g : Grammar) : Bool := g == .bigquery || g == .generic

/-- Whether `U&` before a quote marks a string with numbered characters. -/
def numberedStrings (g : Grammar) : Bool := g == .postgres || g == .generic

/-- Whether `#` starts a comment. -/
def hashComments (g : Grammar) : Bool := g == .snowflake || g == .bigquery || g == .mysql

/-- Whether `//` is an operator. -/
def integerDivision (g : Grammar) : Bool := g == .duckdb || g == .generic

/-- Whether an identifier may start with digits. -/
def numericIdents (g : Grammar) : Bool := g == .mysql

/-- Whether a minus sign may join the words of a table name. -/
def hyphenatedNames (g : Grammar) : Bool := g == .bigquery

/-- Whether operators are built freely from operator characters. -/
def customOperators (g : Grammar) : Bool := g == .postgres

end Grammar

end DatasetSql.Statement
