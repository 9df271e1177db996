import DatasetSql.Statement.Basic
import DatasetSql.Text.Case

/-!
# Lexemes

The units that SQL text is cut into: words, literals and symbols. Blanks and comments are none.
-/

namespace DatasetSql.Statement

/-- A unit of SQL text. -/
inductive Lexeme where
  /-- An identifier; a bare one comes with its capitals, by which it may be a keyword. -/
  | word (i : Ident) (capitals : String)
  | literal (v : Value)
  | symbol (text : String)
  /-- An operator that was put together freely from operator characters. -/
  | operator (text : String)
  /-- A minus sign without blanks around it, before a word or a number, where it may join words. -/
  | hyphen
deriving DecidableEq, Repr

/-- A bare word. -/
def bareWord (s : String) : Lexeme := .word ⟨s, none⟩ (Text.upper s)

/-- A word between delimiters, given the opening one. -/
def quotedWord (quote : Char) (s : String) : Lexeme := .word ⟨s, some quote⟩ ""

/-- A text between delimiters, written as it stands. -/
def rawIdent (i : Ident) : String :=
  match i.quote with
  | none => i.value
  | some '[' => "[" ++ i.value ++ "]"
  | some q => String.singleton q ++ i.value ++ String.singleton q

/-- The text of a lexeme in a message; nothing inside it is escaped. -/
def Lexeme.text : Lexeme → String
  | .word i _ => rawIdent i
  | .symbol s | .operator s => s
  | .hyphen => "-"
  | .literal v =>
    match v with
    | .number s long => s ++ if long then "L" else ""
    | .string s => "'" ++ s ++ "'"
    | .doubleQuoted s => "\"" ++ s ++ "\""
    | .tripleQuoted q s => q.text true ++ s ++ q.text true
    | .marked mark q triple s => mark.letter ++ q.text triple ++ s ++ q.text triple
    | .escaped s => "E'" ++ s ++ "'"
    | .numbered s => "U&'" ++ s ++ "'"
    | .dollarQuoted tag s => "$" ++ tag ++ "$" ++ s ++ "$" ++ tag ++ "$"
    | .boolean b => if b then "true" else "false"
    | .null => "NULL"
    | .placeholder s => s

/-- The keyword that a bare word spells. -/
def Lexeme.keyword? : Lexeme → Option String
  | .word ⟨_, none⟩ capitals => some capitals
  | _ => none

/-- Whether a lexeme is a bare word with this spelling, in any case. -/
def Lexeme.isKeyword (keyword : String) (l : Lexeme) : Bool := l.keyword? == some keyword

/-- Whether a lexeme is a symbol with this spelling. -/
def Lexeme.isSymbol (s : String) : Lexeme → Bool
  | .symbol t => t == s
  | .hyphen => s == "-"
  | _ => false

end DatasetSql.Statement
