/-!
# Statements as trees

The syntax of SQL statements as it is read from text and written back. Identifiers remember the
delimiter they were written in, literals remember their spelling where it is not fixed.

The tree keeps apart what edits work on: identifiers that refer to columns or name relations,
values, calls, relations, common table expressions and the page window of a query. Everything around
them is a *phrase*: words as they are written, with the expressions, queries and sources that stand
between them. A pass over a tree so has few cases, however rich the language is.
-/

namespace DatasetSql.Statement

/-- An identifier and the opening delimiter it was written in, if any. -/
structure Ident where
  value : String
  quote : Option Char := none
deriving DecidableEq, Repr

/-- A name with its qualifiers, outermost first. -/
abbrev ObjectName := List Ident

/-- A quote that strings stand between. -/
inductive Quote where
  | single
  | double
deriving DecidableEq, Repr

namespace Quote

/-- The quote as a character. -/
def char : Quote → Char
  | single => '\''
  | double => '"'

/-- The quote that a character is. -/
def of (c : Char) : Quote := if c == '"' then double else single

/-- The quote, or three of it in a row. -/
def text (triple : Bool) (q : Quote) : String :=
  if triple then String.ofList [q.char, q.char, q.char] else String.singleton q.char

end Quote

/-- What a letter before a string says of it, where the string is written back without escapes. -/
inductive StringMark where
  | national
  | bytes
  | raw
  | hexadecimal
deriving DecidableEq, Repr

/-- The letter of a mark. -/
def StringMark.letter : StringMark → String
  | .national => "N"
  | .bytes => "B"
  | .raw => "R"
  | .hexadecimal => "X"

/-- A literal value. -/
inductive Value where
  | number (text : String) (long : Bool)
  | string (text : String)
  | doubleQuoted (text : String)
  /-- A string between three quotes. -/
  | tripleQuoted (quote : Quote) (text : String)
  /-- A string after a mark that is written back without escapes: `N'…'`, `X'…'`, `B'''…'''`. -/
  | marked (mark : StringMark) (quote : Quote) (triple : Bool) (text : String)
  /-- A string whose backslash sequences were read: `E'…'`. -/
  | escaped (text : String)
  /-- A string whose numbered characters were read: `U&'…'`. -/
  | numbered (text : String)
  | dollarQuoted (tag text : String)
  | boolean (value : Bool)
  | null
  | placeholder (text : String)
deriving DecidableEq, Repr

/-- How a data type may be used. -/
inductive TypeKind where
  /-- A type of the language; a string after it is a literal of the type. -/
  | standard
  | interval
  /-- A type that only its name tells. -/
  | custom
deriving DecidableEq, Repr

/-- A data type in its canonical spelling. -/
structure DataType where
  kind : TypeKind
  text : String
deriving DecidableEq, Repr

/-- The word after an offset. -/
inductive OffsetUnit where
  | none | row | rows
deriving DecidableEq, Repr

/-- What is said about the rows of a `FETCH`. -/
structure FetchStyle where
  percent : Bool := false
  withTies : Bool := false
deriving DecidableEq, Repr

/-- A name for a relation, with its columns as they are written. -/
structure TableAlias where
  name : Ident
  columns : List String := []
deriving DecidableEq, Repr

mutual

/-- A piece of a phrase. -/
inductive Part where
  | words (s : String)
  | literal (v : Value)
  | expr (e : Expr)
  | query (q : Query)
  | source (s : Source)
  /-- Parts that are written here, but seen after the others of their phrase. -/
  | late (parts : List Part)

/-- An expression. -/
inductive Expr where
  | ident (name : Ident)
  | compound (parts : List Ident)
  | value (v : Value)
  /-- A call: the name of the function and all that follows it. -/
  | call (name : ObjectName) (tail : List Part)
  | binary (left : Expr) (operator : String) (right : Expr)
  | subquery (q : Query)
  /-- Any other expression; `tight` says that it can be an operand as it stands. -/
  | form (tight : Bool) (parts : List Part)

/-- A query: common table expressions, a body, and what is done with its rows. What is said between
the offset and the `FETCH` is `detail`, what ends the query is `closing`. -/
inductive Query where
  | mk (recursive : Bool) (ctes : List Cte) (body : Body) (order : List Part)
      (limit offset : Option Expr) (offsetUnit : OffsetUnit) (detail : List Part)
      (fetch : Option FetchStyle) (fetched : Option Expr) (closing : String)

/-- A common table expression. -/
inductive Cte where
  | mk (asName : TableAlias) (materialized : String) (query : Query) (origin : Option Ident)

/-- The body of a query. -/
inductive Body where
  | select (s : Select)
  | query (q : Query)
  | setOperation (left : Body) (operator : String) (right : Body)
  | phrase (parts : List Part)

/-- A `SELECT`: what stands before its items, the items with their aliases, its sources and the
clauses after them. -/
inductive Select where
  | mk (opening : List Part) (items : List (Expr × Option Ident)) (target : String)
      (sources : List Source) (clauses : List Part)

/-- A relation and what is joined to it. -/
inductive Source where
  | mk (relation : Relation) (joins : List Join)

/-- A relation of a `FROM` clause. -/
inductive Relation where
  /-- A table, or a call of a table function; `detail` stands between name and alias. -/
  | table (name : ObjectName) (isCall : Bool) (detail : List Part) (asName : Option TableAlias)
      (tail : List Part)
  | derived (lateral : Bool) (query : Query) (asName : Option TableAlias)
  | nested (source : Source) (asName : Option TableAlias)
  /-- Any other relation; its alias is left alone by edits. -/
  | form (parts : List Part) (asName : Option TableAlias) (tail : String)

/-- A joined relation, with the words before it and the condition after it. -/
inductive Join where
  | mk (words : String) (relation : Relation) (condition : List Part)

end

/-- Words and the trees between them, in the order of writing. -/
abbrev Phrase := List Part

instance : Inhabited Expr := ⟨.value .null⟩

end DatasetSql.Statement

namespace DatasetSql

open Statement in
/-- A statement: a query, or a command that is written as a phrase. -/
inductive Statement where
  | query (q : Query)
  | command (parts : Phrase)

end DatasetSql
