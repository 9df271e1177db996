import DatasetSql.Statement.Grammar
import DatasetSql.Statement.Lexeme

/-!
# Cutting text into lexemes

Every step looks at the next character, takes the longest lexeme that starts there and leaves the
rest. Blanks and comments give no lexeme. What no rule covers is a symbol of one character, which
no statement is made of.
-/

namespace DatasetSql.Statement

/-- The characters that a lexeme took, and those after it. -/
abbrev Taken := List Char × List Char

/-! ## Strings -/

/-- The character that an escape sequence stands for. -/
def unescaped : Char → Char
  | '0' => '\x00'
  | 'a' => '\x07'
  | 'b' => '\x08'
  | 'f' => '\x0c'
  | 'n' => '\n'
  | 'r' => '\r'
  | 't' => '\t'
  | 'Z' => '\x1a'
  | c => c

/-- Reads a string after its opening quote. A doubled quote stands for one; `escapes` says that a
backslash escapes the character after it. -/
def readString (quote : Char) (escapes : Bool) : List Char → Option Taken
  | [] => none
  | [c] => if c == quote then some ([], []) else none
  | c :: d :: cs =>
    if c == quote then
      if d == quote then (readString quote escapes cs).map fun (s, rest) => (quote :: s, rest)
      else some ([], d :: cs)
    else if escapes && c == '\\' then
      (readString quote escapes cs).map fun (s, rest) => (unescaped d :: s, rest)
    else (readString quote escapes (d :: cs)).map fun (s, rest) => (c :: s, rest)

/-- Reads a string after its three opening quotes. `run` counts the quotes just passed, `seen` is
what was read, in reverse. -/
def readTriple (quote : Char) (escapes : Bool) :
    Nat → List Char → List Char → Option Taken
  | _, _, [] => none
  | run, seen, c :: cs =>
    if c == quote then
      if run = 2 then some ((seen.drop 2).reverse, cs)
      else readTriple quote escapes (run + 1) (c :: seen) cs
    else if escapes && c == '\\' then
      match cs with
      | [] => none
      | d :: cs => readTriple quote escapes 0 (unescaped d :: seen) cs
    else readTriple quote escapes 0 (c :: seen) cs

/-- Reads a string from its opening quote; `triples` says that three quotes may open one, too. The
number of quotes tells which it was. -/
def readQuoted (triples : Bool) (quote : Char) (escapes : Bool) (cs : List Char) :
    Option (Nat × Taken) :=
  let single := (readString quote escapes (cs.drop 1)).map (1, ·)
  if triples then
    match (cs.takeWhile (· == quote)).length with
    | 0 | 1 => single
    | 2 => some (1, [], cs.drop 2)
    | _ => (readTriple quote escapes 0 [] (cs.drop 3)).map (3, ·)
  else single

/-- Reads a string after a mark. -/
def readMarked (triples : Bool) (mark : StringMark) (quote : Char) (cs : List Char) :
    Option (Lexeme × List Char) :=
  (readQuoted triples quote false cs).map fun (n, s, rest) =>
    (.literal (.marked mark (.of quote) (n == 3) (String.ofList s)), rest)

/-- The value of a hexadecimal digit. -/
def hexValue? (c : Char) : Option Nat :=
  if c.isDigit then some (c.toNat - 48)
  else if 'a' ≤ c && c ≤ 'f' then some (c.toNat - 87)
  else if 'A' ≤ c && c ≤ 'F' then some (c.toNat - 55)
  else none

/-- The number that some digits stand for in a base. -/
def digitsValue (base : Nat) (digits : List Char) : Nat :=
  digits.foldl (fun n c => n * base + (hexValue? c).getD 0) 0

/-- Whether a character is an octal digit. -/
def isOctal (c : Char) : Bool := '0' ≤ c && c ≤ '7'

/-- Whether a character is a hexadecimal digit. -/
def isHex (c : Char) : Bool := (hexValue? c).isSome

/-- The character with a given code, if there is one. -/
def character? (n : Nat) : Option Char := if n.isValidChar then some (Char.ofNat n) else none

/-- The ASCII character whose code is the last byte of a number. -/
def byteCharacter? (n : Nat) : Option Char := if n % 256 < 128 then character? (n % 256) else none

/-- The character whose code is written in hexadecimal digits, with or without a plus sign. -/
def codeCharacter? (code : List Char) : Option Char :=
  let digits := if code.head? == some '+' then code.drop 1 else code
  if !digits.isEmpty && digits.all isHex then character? (digitsValue 16 digits) else none

/-- The character that a backslash sequence stands for, given what follows the backslash, and what
follows the sequence. -/
def readSequence : List Char → Option (Char × List Char)
  | [] => none
  | 'b' :: rest => some ('\x08', rest)
  | 'f' :: rest => some ('\x0c', rest)
  | 'n' :: rest => some ('\n', rest)
  | 'r' :: rest => some ('\r', rest)
  | 't' :: rest => some ('\t', rest)
  | 'u' :: rest =>
    if rest.length < 4 then none
    else (codeCharacter? (rest.take 4)).map (·, rest.drop 4)
  | 'U' :: rest =>
    if rest.length < 8 then none
    else (codeCharacter? (rest.take 8)).map (·, rest.drop 8)
  | 'x' :: rest =>
    let digits := (rest.take 2).takeWhile isHex
    if digits.isEmpty then some ('x', rest)
    else (byteCharacter? (digitsValue 16 digits)).map (·, rest.drop digits.length)
  | c :: rest =>
    if isOctal c then
      let digits := ((c :: rest).take 3).takeWhile isOctal
      (byteCharacter? (digitsValue 8 digits)).map (·, (c :: rest).drop digits.length)
    else some (c, rest)

/-- Reads a string with backslash sequences after its opening quote; none of them may stand for the
character zero. -/
def readEscaped : Nat → List Char → Option Taken
  | 0, _ => none
  | fuel + 1, cs =>
    let push (c : Char) (rest : List Char) : Option Taken :=
      (readEscaped fuel rest).map fun (s, rest) => (c :: s, rest)
    match cs with
    | [] => none
    | '\'' :: '\'' :: rest => push '\'' rest
    | '\'' :: rest => some ([], rest)
    | '\\' :: rest =>
      match readSequence rest with
      | some (c, rest) => if c == '\x00' then none else push c rest
      | none => none
    | c :: rest => push c rest

/-- The character that so many hexadecimal digits stand for, and what follows them. -/
def readCode (n : Nat) (cs : List Char) : Option (Char × List Char) :=
  let digits := cs.take n
  if digits.length = n && digits.all isHex then
    (character? (digitsValue 16 digits)).map (·, cs.drop n)
  else none

/-- Reads a string with numbered characters after its opening quote. -/
def readNumbered : Nat → List Char → Option Taken
  | 0, _ => none
  | fuel + 1, cs =>
    let push (found : Option (Char × List Char)) : Option Taken := do
      let (c, rest) ← found
      let (s, rest) ← readNumbered fuel rest
      return (c :: s, rest)
    match cs with
    | [] => none
    | '\'' :: '\'' :: rest => push (some ('\'', rest))
    | '\'' :: rest => some ([], rest)
    | '\\' :: '\\' :: rest => push (some ('\\', rest))
    | '\\' :: '+' :: rest => push (readCode 6 rest)
    | '\\' :: rest => push (readCode 4 rest)
    | c :: rest => push (some (c, rest))

/-! ## Identifiers and words -/

/-- Reads a quoted identifier after its opening delimiter; the closing one is doubled inside. -/
def readIdent (closing : Char) : List Char → Option Taken
  | [] => none
  | [c] => if c == closing then some ([], []) else none
  | c :: d :: cs =>
    if c == closing then
      if d == closing then (readIdent closing cs).map fun (s, rest) => (closing :: s, rest)
      else some ([], d :: cs)
    else (readIdent closing (d :: cs)).map fun (s, rest) => (c :: s, rest)

/-- Whether a quoted identifier, after its delimiter, is one for the grammar. -/
def acceptsQuoted (g : Grammar) (cs : List Char) : Bool :=
  !g.checksQuoted || (cs.dropWhile Text.isBlank).head?.any g.startsIdent

/-- Reads a word that starts with the given characters. -/
def readWord (g : Grammar) (start : List Char) (cs : List Char) : Lexeme × List Char :=
  let (more, rest) := cs.span g.continuesIdent
  (bareWord (String.ofList (start ++ more)), rest)

/-! ## Numbers -/

/-- The mark, sign and digits of an exponent, if there is a digit. -/
def readExponent : List Char → Taken
  | c :: cs =>
    let (sign, rest) := match cs with
      | '+' :: rest => (['+'], rest)
      | '-' :: rest => (['-'], rest)
      | _ => ([], cs)
    let (digits, rest) := rest.span Char.isDigit
    if (c == 'e' || c == 'E') && !digits.isEmpty then (c :: sign ++ digits, rest)
    else ([], c :: cs)
  | [] => ([], [])

/-- A point, if one comes next. -/
def readPoint : List Char → Taken
  | '.' :: rest => (['.'], rest)
  | cs => ([], cs)

/-- Whether the mark of an exponent comes next. -/
def marksExponent (cs : List Char) : Bool := cs.head?.any fun c => c == 'e' || c == 'E'

/-- Reads a number or a dot. An identifier may start with digits, but no mark of an exponent may
follow them. -/
def readNumber (g : Grammar) (cs : List Char) : Lexeme × List Char :=
  let (whole, rest) := cs.span Char.isDigit
  match whole, rest with
  | ['0'], 'x' :: rest =>
    let (digits, rest) := rest.span isHex
    (.literal (.marked .hexadecimal .single false (String.ofList digits)), rest)
  | _, _ =>
    let (point, rest) := readPoint rest
    let (fraction, rest) := rest.span Char.isDigit
    let mantissa := whole ++ point ++ fraction
    if mantissa = ['.'] then (.symbol ".", rest)
    else
      let (tail, afterTail) := rest.span g.continuesIdent
      if g.numericIdents && !marksExponent rest && !tail.isEmpty then
        (bareWord (String.ofList (mantissa ++ tail)), afterTail)
      else
        let (exponent, rest) := readExponent rest
        let text := String.ofList (mantissa ++ exponent)
        match rest with
        | 'L' :: rest => (.literal (.number text true), rest)
        | _ => (.literal (.number text false), rest)

/-! ## Dollars -/

/-- Reads a tag after a dollar and the dollar that closes it. What was read is kept, in reverse, if
it is no closing delimiter; the character that shows this is taken, too. -/
def readTag : List Char → List Char → List Char → Option (Bool × Taken)
  | seen, [], '$' :: cs => some (true, seen, cs)
  | seen, [], cs => some (false, seen, cs)
  | _, _ :: _, [] => none
  | seen, t :: tag, c :: cs =>
    if c == t then readTag (c :: seen) tag cs else some (false, c :: seen, cs)

/-- Reads up to the closing delimiter of a dollar-quoted string, which repeats the tag. -/
def readDollar (tag : List Char) : Nat → List Char → Option Taken
  | 0, _ => none
  | fuel + 1, cs =>
    let (plain, rest) := cs.span (· != '$')
    match rest with
    | [] => none
    | _ :: rest => do
      match ← readTag ['$'] tag rest with
      | (true, _, rest) => return (plain, rest)
      | (false, seen, rest) =>
        let (s, rest) ← readDollar tag fuel rest
        return (plain ++ seen.reverse ++ s, rest)

/-- Reads a placeholder or a dollar-quoted string, after the first dollar. -/
def readDollarValue (cs : List Char) : Option (Lexeme × List Char) :=
  let (tag, rest) := cs.span fun c => Text.isLetterOrNumeral c || c == '_'
  match rest with
  | '$' :: rest =>
    (readDollar tag (rest.length + 1) rest).map fun (s, rest) =>
      (.literal (.dollarQuoted (String.ofList tag) (String.ofList s)), rest)
  | _ => some (.literal (.placeholder (String.ofList ('$' :: tag))), rest)

/-! ## Comments -/

/-- What follows a comment that ends with the line. -/
def skipLine (cs : List Char) : List Char := (cs.dropWhile (· != '\n')).drop 1

/-- What follows a comment, given how many are open and the character before. -/
def skipComment : Nat → Char → List Char → Option (List Char)
  | _, _, [] => none
  | depth, last, c :: cs =>
    if last == '/' && c == '*' then skipComment (depth + 1) c cs
    else if last == '*' && c == '/' then
      if depth ≤ 1 then some cs else skipComment (depth - 1) c cs
    else skipComment depth c cs

/-! ## Symbols -/

/-- Symbols that nothing is added to, longer ones first. -/
def fixedSymbols : List String :=
  ["!~~*", "!~~", "!~*", "!~", "=>", "==", "!=", "!!", "::", ":=", "^@", "@>", "@?", "@@"]

/-- Symbols that free operators may grow from, longer ones first. -/
def growingSymbols : List String :=
  ["->>", "||/", "<=>", "#>>", "~~*", "->", "|/", "||", "<=", "<>", "<<", "<@", ">=", ">>", "&&",
    "~*", "~~", "#>", "#-", "-", "%", "|", "<", ">", "&", "~", "#"]

/-- Whether a free operator may contain this character. -/
def isOperatorChar (c : Char) : Bool := "+-*/<>=~!@#%^&|`?".toList.contains c

/-- Reads a symbol; both spellings of inequality are one. -/
def readSymbol (g : Grammar) (cs : List Char) : Lexeme × List Char :=
  let starts (s : String) : Bool := s.toList.isPrefixOf cs
  match fixedSymbols.find? starts, growingSymbols.find? starts with
  | some s, _ => (.symbol (if s == "!=" then "<>" else s), cs.drop s.length)
  | none, some s =>
    let rest := cs.drop s.length
    let more := if g.customOperators then rest.takeWhile isOperatorChar else []
    if more.isEmpty then (.symbol s, rest)
    else (.operator (s ++ String.ofList more), rest.drop more.length)
  | none, none => (.symbol (String.ofList (cs.take 1)), cs.drop 1)

/-- Reads what starts with a character that is both an operator and, in some grammars, the start of
a word; before the `plain` characters it is an operator. -/
def readMixed (g : Grammar) (plain : List Char) (c : Char) (cs : List Char) :
    Lexeme × List Char :=
  match cs with
  | d :: rest =>
    if plain.contains d || !g.startsIdent c then readSymbol g (c :: cs)
    else readWord g [c, d] rest
  | [] => readSymbol g [c]

/-- Whether a minus sign may join the lexeme before it with what follows, which has to be a bare word
or a number; `glued` says that no blank stands before it. -/
def isHyphen (g : Grammar) (glued : Bool) (cs : List Char) : Bool :=
  g.hyphenatedNames && glued && cs.head?.any fun c => g.startsIdent c || c.isDigit || c == '.'

/-! ## One step -/

/-- What one step finds: a lexeme, or a blank. -/
abbrev Found := Option Lexeme × List Char

/-- A step that finds a lexeme. -/
def found (x : Lexeme × List Char) : Found := (some x.1, x.2)

/-- What a letter before a quote says: that backslash sequences are read, or a mark. -/
inductive Marker where
  | escapes
  | mark (m : StringMark)
deriving DecidableEq, Repr

/-- The marker that a letter before a quote may be. -/
def marker? (g : Grammar) (c quote : Char) : Option Marker :=
  match c.toUpper with
  | 'B' => if g.byteStrings && (quote == '\'' || quote == '"') then some (.mark .bytes) else none
  | 'R' => if g.rawStrings && (quote == '\'' || quote == '"') then some (.mark .raw) else none
  | 'N' => if quote == '\'' then some (.mark .national) else none
  | 'E' => if quote == '\'' then some .escapes else none
  | 'X' => if quote == '\'' then some (.mark .hexadecimal) else none
  | _ => none

/-- Reads a string with the marker before it, from its opening quote. -/
def readWithMarker (g : Grammar) (marker : Marker) (quote : Char) (cs : List Char) :
    Option (Lexeme × List Char) :=
  match marker with
  | .escapes =>
    (readEscaped (cs.length + 1) (cs.drop 1)).map fun (s, rest) =>
      (.literal (.escaped (String.ofList s)), rest)
  | .mark m =>
    if m == .national || m == .hexadecimal then
      (readString quote true (cs.drop 1)).map fun (s, rest) =>
        (.literal (.marked m .single false (String.ofList s)), rest)
    else readMarked (m == .raw || g.tripleQuotes) m quote cs

/-- A string literal between the given number of quotes. -/
def stringLexeme (quote : Char) (n : Nat) (s : List Char) : Lexeme :=
  .literal <|
    if n = 3 then .tripleQuoted (.of quote) (String.ofList s)
    else if quote == '"' then .doubleQuoted (String.ofList s)
    else .string (String.ofList s)

/-- Reads a string from its opening quote. -/
def readPlain (g : Grammar) (quote : Char) (cs : List Char) : Option Found :=
  (readQuoted g.tripleQuotes quote g.escapesWithBackslash cs).map fun (n, s, rest) =>
    (some (stringLexeme quote n s), rest)

/-- Reads the next lexeme, given the one that stands directly before it and its first character; none
if a string, a quoted identifier or a comment is not closed. -/
def nextLexeme (g : Grammar) (previous : Option Lexeme) (c : Char) (cs : List Char) :
    Option Found :=
  if c == ' ' || c == '\t' || c == '\n' || c == '\r' then some (none, cs)
  else
  match cs.head?.bind (fun q => (marker? g c q).map (q, ·)) with
  | some (q, marker) => (readWithMarker g marker q cs).map found
  | none =>
  if g.numberedStrings && (c == 'u' || c == 'U') && cs.take 2 == ['&', '\''] then
    (readNumbered cs.length (cs.drop 2)).map fun (s, rest) =>
      (some (.literal (.numbered (String.ofList s))), rest)
  else if c == '\'' || (c == '"' && !g.opensIdent c) then readPlain g c (c :: cs)
  else if g.opensIdent c && acceptsQuoted g cs then
    (readIdent (Dialect.closingQuote c) cs).map fun (s, rest) =>
      (some (quotedWord c (String.ofList s)), rest)
  else if c.isDigit || c == '.' then some (found (readNumber g (c :: cs)))
  else
  match c, cs with
  | '-', '-' :: rest => some (none, skipLine rest)
  | '-', _ =>
    if isHyphen g previous.isSome cs then some (some .hyphen, cs)
    else some (found (readSymbol g (c :: cs)))
  | '/', '*' :: rest => (skipComment 1 ' ' rest).map (none, ·)
  | '/', '/' :: rest =>
    if g == .snowflake then some (none, skipLine rest)
    else if g.integerDivision then some (some (.symbol "//"), rest)
    else some (some (.symbol "/"), cs)
  | '#', _ =>
    if g.hashComments then some (none, skipLine cs)
    else some (found (readMixed g ['-', '>', ' '] c cs))
  | '@', _ =>
    match cs with
    | '@' :: d :: rest =>
      if d == ' ' || !g.startsIdent '@' then some (found (readSymbol g (c :: cs)))
      else some (found (readWord g ['@', '@', d] rest))
    | _ => some (found (readMixed g ['>', '?', '@', ' '] c cs))
  | '?', _ =>
    if g == .postgres then
      match cs with
      | '&' :: rest => some (some (.symbol "?&"), rest)
      | '|' :: rest => some (some (.symbol "?|"), rest)
      | _ => some (some (.symbol "?"), cs.drop 1)
    else
      let (digits, rest) := cs.span Text.isNumeral
      some (some (.literal (.placeholder (String.ofList ('?' :: digits)))), rest)
  | _, _ =>
    if g.startsIdent c then some (found (readWord g [c] cs))
    else if c == '$' then (readDollarValue cs).map found
    else if Text.isBlank c then some (none, cs)
    else some (found (readSymbol g (c :: cs)))

/-- Cuts text into lexemes, each step leaving fewer characters. -/
def lexFrom (g : Grammar) : Nat → Option Lexeme → List Char → Option (List Lexeme)
  | _, _, [] => some []
  | 0, _, _ => none
  | fuel + 1, previous, c :: cs => do
    let (lexeme?, rest) ← nextLexeme g previous c cs
    let lexemes ← lexFrom g fuel lexeme? rest
    return lexeme?.toList ++ lexemes

/-- The lexemes of a text. -/
def lex (g : Grammar) (s : String) : Option (List Lexeme) :=
  lexFrom g s.toList.length none s.toList

end DatasetSql.Statement
