import DatasetSql.Statement.Lexer

/-!
# Binding strength

How tightly an operator binds, and which operator the next lexemes spell. Strengths are compared
only within one grammar.
-/

namespace DatasetSql.Statement

/-- The groups of operators that bind alike. -/
inductive Level where
  | or | and | not | is | like | between | eq | pipe | caret | ampersand | xor | plus | times
  | timeZone | other | collate | bracket | cast
deriving DecidableEq, Repr

/-- How tightly a group binds. -/
def Grammar.strength (g : Grammar) : Level → Nat
  | .or => if g = .postgres then 10 else 5
  | .and => if g = .postgres then 20 else 10
  | .not => if g = .postgres then 30 else 15
  | .is => if g = .postgres then 40 else 17
  | .like => if g = .postgres then 60 else 19
  | .between => if g = .postgres then 60 else 20
  | .eq => if g = .postgres then 50 else 20
  | .pipe => if g = .postgres then 70 else 21
  | .caret => if g = .postgres then 100 else 22
  | .ampersand => if g = .postgres then 70 else 23
  | .xor => if g = .postgres then 75 else 24
  | .plus => if g = .postgres then 80 else 30
  | .times => if g = .postgres then 90 else 40
  | .timeZone => if g = .postgres then 110 else 41
  | .other => if g = .postgres then 70 else 16
  | .collate => if g = .postgres then 120 else 0
  | .bracket => if g = .postgres then 130 else 50
  | .cast => if g = .postgres then 140 else 50

/-- Words that a negation may stand before. -/
def negatable : List String := ["IN", "BETWEEN", "LIKE", "ILIKE", "RLIKE", "REGEXP", "SIMILAR"]

/-- The group of an operator that is a word. -/
def wordLevel? : String → Option Level
  | "OR" => some .or
  | "AND" => some .and
  | "XOR" => some .xor
  | "IS" => some .is
  | "IN" | "BETWEEN" | "OPERATOR" => some .between
  | "LIKE" | "ILIKE" | "RLIKE" | "REGEXP" | "SIMILAR" => some .like
  | "DIV" => some .times
  | "COLLATE" => some .collate
  | _ => none

/-- Symbols that compare. -/
def comparisonSymbols : List String :=
  ["=", "<", "<=", "<>", ">", ">=", "==", "~", "~*", "!~", "!~*", "~~", "~~*", "!~~", "!~~*", "<=>"]

/-- Symbols of operators that no standard names. -/
def otherSymbols : List String :=
  ["->", "->>", "#>", "#>>", "@>", "<@", "#-", "@?", "@@", "?", "?&", "?|"]

/-- Symbols that postgres ranks with its other operators. -/
def postgresOtherSymbols : List String := ["!", "&&", "^@", "||", "#", ">>", "<<"]

/-- The group of an operator that is a symbol. -/
def symbolLevel? (g : Grammar) (s : String) : Option Level :=
  if comparisonSymbols.contains s then some .eq
  else if otherSymbols.contains s then some .other
  else if g = .postgres && postgresOtherSymbols.contains s then some .other
  else
  match s with
  | "|" => some .pipe
  | "^" | "#" | ">>" | "<<" => some .caret
  | "&" => some .ampersand
  | "+" | "-" => some .plus
  | "*" | "/" | "//" | "%" | "||" => some .times
  | "[" => some .bracket
  | "::" | "!" | "&&" | "^@" => some .cast
  | ":" => if g = .snowflake then some .cast else none
  | _ => none

/-- The group of the operator that comes next. -/
def nextLevel? (g : Grammar) : List Lexeme → Option Level
  | .symbol s :: _ => symbolLevel? g s
  | .hyphen :: _ => some .plus
  | .operator _ :: _ => some .other
  | l :: ls =>
    match l.keyword? with
    | some "AT" =>
      if (ls.take 2).map Lexeme.keyword? == [some "TIME", some "ZONE"] then some .timeZone
      else none
    | some "NOT" =>
      match ls.head?.bind Lexeme.keyword? with
      | some k => if negatable.contains k then wordLevel? k else none
      | none => none
    | some k => wordLevel? k
    | none => none
  | [] => none

/-- How tightly the operator that comes next binds; zero if there is none. -/
def nextStrength (g : Grammar) (ls : List Lexeme) : Nat :=
  (nextLevel? g ls).elim 0 g.strength

end DatasetSql.Statement
