import DatasetSql.Numeric.Power
import DatasetSql.Statement.Grammar
import DatasetSql.Statement.Keyword
import DatasetSql.Statement.Phrase

/-!
# Reading lexemes

A reader takes lexemes from the front of a list or fails. Failing leaves the list of whoever tries
something else untouched, so alternatives are tried by running them on the same lexemes. Only one
failure is final: nesting that is too deep.

Repetition is bounded by the number of lexemes left, since each round takes at least one.
-/

namespace DatasetSql.Statement

/-- Why text is no statement or expression. -/
inductive ParseError where
  | invalid
  | tooDeep
  /-- An expression is followed by this lexeme. -/
  | trailing (text : String)
deriving DecidableEq, Repr

/-- A reader of lexemes. -/
abbrev Parser := StateT (List Lexeme) (Except ParseError)

namespace Parser

/-- Fails. -/
def fail {α : Type} : Parser α := throw .invalid

/-- The next lexeme, which stays. -/
def peek : Parser (Option Lexeme) := return (← get).head?

/-- Whether the lexeme at a distance is a keyword. -/
def peekKeywordAt (n : Nat) (k : String) : Parser Bool := return ((← get)[n]?).any (·.isKeyword k)

/-- Whether the next lexeme is a keyword. -/
def peekKeyword (k : String) : Parser Bool := peekKeywordAt 0 k

/-- Whether several keywords come next. -/
def peekKeywords (ks : List String) : Parser Bool := do
  let ls ← get
  return ks.length ≤ ls.length && (ks.zip ls).all fun (k, l) => l.isKeyword k

/-- Whether the lexeme at a distance is a symbol. -/
def peekSymbolAt (n : Nat) (s : String) : Parser Bool := return ((← get)[n]?).any (·.isSymbol s)

/-- Whether the next lexeme is a symbol. -/
def peekSymbol (s : String) : Parser Bool := peekSymbolAt 0 s

/-- Whether nothing is left. -/
def atEnd : Parser Bool := return (← get).isEmpty

/-- Takes a lexeme. -/
def next : Parser Lexeme := do
  match ← get with
  | l :: ls => set ls; return l
  | [] => fail

/-- Drops the next lexeme. -/
def skip : Parser Unit := modify List.tail

/-- Takes a keyword if it comes next. -/
def keyword (k : String) : Parser Bool := do
  if ← peekKeyword k then skip; return true else return false

/-- Takes several keywords if they come next. -/
def keywords (ks : List String) : Parser Bool := do
  if ← peekKeywords ks then
    modify (·.drop ks.length)
    return true
  else return false

/-- Takes the first of some keywords that comes next. -/
def oneOf (ks : List String) : Parser (Option String) := do
  match (← get).head?.bind Lexeme.keyword? with
  | some k => if ks.contains k then skip; return some k else return none
  | none => return none

/-- Takes a symbol if it comes next. -/
def symbol (s : String) : Parser Bool := do
  if ← peekSymbol s then skip; return true else return false

/-- Tries to take something, but only under a condition. -/
def onlyIf (condition : Bool) (p : Parser Bool) : Parser Bool :=
  if condition then p else return false

/-- Takes a keyword. -/
def expectKeyword (k : String) : Parser Unit := do
  unless ← keyword k do fail

/-- Takes several keywords. -/
def expectKeywords (ks : List String) : Parser Unit := do
  unless ← keywords ks do fail

/-- Takes one of some keywords. -/
def expectOneOf (ks : List String) : Parser String := do
  match ← oneOf ks with
  | some k => return k
  | none => fail

/-- Takes a symbol. -/
def expect (s : String) : Parser Unit := do
  unless ← symbol s do fail

/-- Tries a reader; if it fails, nothing is taken. -/
def maybe {α : Type} (p : Parser α) : Parser (Option α) := fun ls =>
  match p ls with
  | .ok (a, rest) => .ok (some a, rest)
  | .error .tooDeep => .error .tooDeep
  | .error _ => .ok (none, ls)

/-- Runs a reader if a keyword comes next. -/
def after {α : Type} (k : String) (p : Parser α) : Parser (Option α) := do
  if ← keyword k then return some (← p) else return none

/-- Runs a reader between parentheses. -/
def parenthesized {α : Type} (p : Parser α) : Parser α := do
  expect "("
  let a ← p
  expect ")"
  return a

/-! ## Lists -/

/-- Whether a comma may follow the last item of a list. -/
def trailingCommas (g : Grammar) : Bool := g == .duckdb

/-- Whether a list may end before the next lexeme although a comma was taken. -/
def endsList : Option Lexeme → Bool
  | none => true
  | some (.symbol s) => [")", ";", "]", "\x7d"].contains s
  | some l => (l.keyword?).any columnAliasReserved.contains

/-- Reads items between commas, at most so many. -/
def separatedFrom {α : Type} (trailing : Bool) (item : Parser α) : Nat → Parser (List α)
  | 0 => fail
  | fuel + 1 => do
    let a ← item
    unless ← symbol "," do return [a]
    if trailing && endsList (← peek) then return [a]
    return a :: (← separatedFrom trailing item fuel)

/-- Reads one item or more between commas; `trailing` says that a comma may follow the last. -/
def separated {α : Type} (trailing : Bool) (item : Parser α) : Parser (List α) := do
  separatedFrom trailing item ((← get).length + 1)

/-- Reads items between commas up to a closing symbol, which stays; there may be none. -/
def separatedOrNone {α : Type} (trailing : Bool) (item : Parser α) (closing : String) :
    Parser (List α) := do
  if ← peekSymbol closing then return []
  if trailing && (← get).take 2 == [.symbol ",", .symbol closing] then
    skip
    return []
  separated trailing item

/-- Repeats a reader while it finds something, at most so many times. -/
def manyFrom {α : Type} (p : Parser (Option α)) : Nat → Parser (List α)
  | 0 => return []
  | fuel + 1 => do
    match ← p with
    | some a => return a :: (← manyFrom p fuel)
    | none => return []

/-- Repeats a reader while it finds something. -/
def many {α : Type} (p : Parser (Option α)) : Parser (List α) := do
  manyFrom p ((← get).length + 1)

/-- Reads items between commas as a phrase. -/
def list (g : Grammar) (item : Parser Phrase) : Parser Phrase :=
  commas <$> separated (trailingCommas g) item

/-! ## Phrases -/

/-- Some keywords with a blank before each, if they come next. -/
def flag (ks : List String) : Parser Phrase := do
  if ← keywords ks then return (" " ++ Text.joined " " ks : String) else return []

/-- One of some keywords with a blank before it, if it comes next. -/
def choice (ks : List String) : Parser Phrase := do
  match ← oneOf ks with
  | some k => return (" " ++ k : String)
  | none => return []

/-- The first of some sequences of keywords that comes next, with a blank before each. -/
def firstFlag : List (List String) → Parser Phrase
  | [] => return []
  | ks :: rest => do
    match ← flag ks with
    | [] => firstFlag rest
    | phrase => return phrase

/-- A clause that some keywords open, if they come next. -/
def opened (ks : List String) (p : Parser Phrase) : Parser Phrase := do
  if ← keywords ks then return Text.joined " " ks ++ " " ++ (← p) else return []

/-- A clause that some keywords open, with a blank before each, if they come next. -/
def clause (ks : List String) (p : Parser Phrase) : Parser Phrase := afterText " " <$> opened ks p

/-- A phrase that stands between parentheses, with them. -/
def inParens (p : Parser Phrase) : Parser Phrase := do
  return "(" ++ (← parenthesized p) ++ ")"

/-! ## Names and literals -/

/-- The identifier that a lexeme is; strings in quotes are identifiers where one is expected. -/
def identOf : Lexeme → Option Ident
  | .word i _ => some i
  | .literal (.string s) => some ⟨s, some '\''⟩
  | .literal (.doubleQuoted s) => some ⟨s, some '"'⟩
  | _ => none

/-- Reads an identifier. -/
def ident : Parser Ident := do
  match identOf (← next) with
  | some i => return i
  | none => fail

/-- Cuts an identifier at its dots. -/
def splitAtDots (i : Ident) : List Ident :=
  (i.value.toList.splitOn '.').map fun part => { i with value := String.ofList part }

/-- Reads the parts of a name after the first. -/
def nameTail (doubleDots : Bool) : Nat → List Ident → Parser (List Ident)
  | 0, _ => fail
  | fuel + 1, parts => do
    unless ← symbol "." do return parts
    let parts ← if ← onlyIf (doubleDots && parts.length == 1) (symbol ".") then
        pure (parts ++ [⟨"", none⟩])
      else pure parts
    nameTail doubleDots fuel (parts ++ [← ident])

/-- The parts of a name; in one grammar an identifier may hold several of them. -/
def nameParts (g : Grammar) (parts : List Ident) : ObjectName :=
  if g == .bigquery then parts.flatMap splitAtDots else parts

/-- Reads a name with its qualifiers. -/
def objectName (g : Grammar) : Parser ObjectName := do
  return nameParts g (← nameTail (g == .snowflake) ((← get).length + 1) [← ident])

/-- Reads names between commas. -/
def objectNames (g : Grammar) : Parser (List ObjectName) :=
  separated (trailingCommas g) (objectName g)

/-- The digits that a number adds to a hyphenated name, and whether a dot ends them. -/
def hyphenDigits? (s : String) : Option (String × Bool) :=
  match s.toList.reverse with
  | '.' :: digits =>
    if !digits.isEmpty && digits.all Char.isDigit then some (String.ofList digits.reverse, true)
    else none
  | _ => some (s, false)

/-- Reads what hyphens add to a word, and tells whether a dot follows that was taken, too. A number
that nothing else follows must end the text. -/
def hyphenTail : Nat → Ident → Parser (Ident × Bool)
  | 0, _ => fail
  | fuel + 1, i => do
    unless (← peek) == some .hyphen do return (i, false)
    skip
    let longer (s : String) : Ident := { i with value := i.value ++ "-" ++ s }
    match ← next with
    | .word ⟨s, none⟩ _ => hyphenTail fuel (longer s)
    | .literal (.number s false) =>
      match hyphenDigits? s with
      | some (digits, true) => return (longer digits, true)
      | some (digits, false) =>
        let ends ← atEnd
        if ends || (← peekSymbol ".") then return (longer digits, false)
        else if (← peek) == some .hyphen then hyphenTail fuel (longer digits)
        else fail
      | none => fail
    | _ => fail

/-- Reads the parts of a table name that may hold hyphens. -/
def hyphenatedFrom : Nat → Parser (List Ident)
  | 0 => fail
  | fuel + 1 => do
    let first ← ident
    let (i, dotted) ← if first.quote.isNone then hyphenTail (fuel + 1) first else pure (first, false)
    if ← symbol "." then return i :: (← hyphenatedFrom fuel)
    else if dotted then return i :: (← hyphenatedFrom fuel)
    else return [i]

/-- Reads the name of a table. -/
def tableName (g : Grammar) : Parser ObjectName := do
  if g.hyphenatedNames then return nameParts g (← hyphenatedFrom ((← get).length + 1))
  else objectName g

/-- Reads identifiers between commas. -/
def idents (g : Grammar) : Parser (List Ident) := separated (trailingCommas g) ident

/-- Reads identifiers between parentheses. -/
def identList (g : Grammar) : Parser (List Ident) := parenthesized (idents g)

/-- Reads identifiers between parentheses, if an opening one comes next. -/
def optionalIdents (g : Grammar) (allowEmpty : Bool) : Parser (List Ident) := do
  unless ← symbol "(" do return []
  if ← onlyIf allowEmpty (symbol ")") then return []
  let is ← idents g
  expect ")"
  return is

/-- Identifiers between parentheses. -/
def columnsText (is : List Ident) : String := "(" ++ Statement.identList is ++ ")"

/-- The number that digits stand for. -/
def natOf? (s : String) : Option Nat :=
  if !s.isEmpty && s.toList.all Char.isDigit then
    some (s.toList.foldl (fun n c => n * 10 + (c.toNat - 48)) 0)
  else none

/-- Reads an unsigned 64-bit integer. -/
def natural : Parser Nat := do
  match ← next with
  | .literal (.number s _) =>
    match natOf? s with
    | some n => if n < Numeric.wordCount then return n else fail
    | none => fail
  | _ => fail

/-- Reads a string where a literal is expected; a word without meaning will do. -/
def literalString (g : Grammar) : Parser String := do
  match ← next with
  | .literal (.string s) | .literal (.doubleQuoted s) => return s
  | .literal (.escaped s) => if g == .postgres || g == .generic then return s else fail
  | .literal (.numbered s) => return s
  | l@(.word i _) => if l.isPlainWord then return i.value else fail
  | _ => fail

/-- Reads a string of one ASCII character. -/
def literalChar (g : Grammar) : Parser String := do
  let s ← literalString g
  if s.utf8ByteSize = 1 then return s else fail

/-- Whether a grammar has truth values. -/
def hasBooleans (g : Grammar) : Bool := g != .tsql

/-- Reads a literal. -/
def value (g : Grammar) : Parser Value := do
  match ← next with
  | .literal v => return v
  | .word ⟨s, some '"'⟩ _ => return .doubleQuoted s
  | .word ⟨_, none⟩ capitals =>
    match capitals with
    | "TRUE" => if hasBooleans g then return .boolean true else fail
    | "FALSE" => if hasBooleans g then return .boolean false else fail
    | "NULL" => return .null
    | _ => fail
  | .symbol s =>
    if s == ":" || s == "@" then
      match ← next with
      | .word i _ => return .placeholder (s ++ i.value)
      | .literal (.number n false) => return .placeholder (s ++ n)
      | _ => fail
    else fail
  | _ => fail

/-- Reads a number, or what stands for one. -/
def numberValue (g : Grammar) : Parser Value := do
  match ← value g with
  | v@(.number ..) | v@(.placeholder _) => return v
  | _ => fail

/-- Reads a number with or without a sign. -/
def signedNumber (g : Grammar) : Parser Phrase := do
  if ← symbol "+" then return "+" ++ (← numberValue g)
  else if ← symbol "-" then return "-" ++ (← numberValue g)
  else numberValue g

/-! ## Aliases -/

/-- Reads the name after an expression or relation, with or without `AS`. -/
def optionalAlias (reserved : List String) : Parser (Option Ident) := do
  let as ← keyword "AS"
  match ← peek with
  | some l@(.word i _) =>
    if as || !(l.keyword?).any reserved.contains then skip; return some i else return none
  | some (.literal (.string s)) => skip; return some ⟨s, some '\''⟩
  | some (.literal (.doubleQuoted s)) => skip; return some ⟨s, some '"'⟩
  | _ => if as then fail else return none

end Parser

end DatasetSql.Statement
