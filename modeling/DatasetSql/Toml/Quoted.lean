import DatasetSql.Json.Reader

/-!
# Quoted texts of a TOML document

Text stands between double quotes, where a backslash starts an escape, or between single quotes,
where it does not. Three quotes enclose text of several lines.
-/

namespace DatasetSql.Toml

open Json (hexValue?)

/-- What a scanner has read, and what comes after it. -/
abbrev Scan := Option (List Char × List Char)

/-- Puts a character in front of what is read. -/
def Scan.prepend (c : Char) (s : Scan) : Scan := s.map fun (text, rest) => (c :: text, rest)

/-- Whether a character may stand for itself in a text or a comment. -/
def isPlain (c : Char) : Bool := c == '\t' || (32 ≤ c.toNat && c.toNat ≠ 127)

/-- The character of a single-letter escape. -/
def escapeChar? : Char → Option Char
  | '"' => some '"'
  | '\\' => some '\\'
  | 'b' => some (Char.ofNat 8)
  | 'e' => some (Char.ofNat 27)
  | 'f' => some (Char.ofNat 12)
  | 'n' => some '\n'
  | 'r' => some '\r'
  | 't' => some '\t'
  | _ => none

/-- The character with a code in hexadecimal digits, if there is one. -/
def codeChar? (digits : List Char) : Option Char := do
  let code ← digits.foldlM (fun n c => (hexValue? c).map (n * 16 + ·)) 0
  if code.isValidChar then return Char.ofNat code else none

/-- Reads a text between double quotes after the first one. -/
def basicText? : List Char → Scan
  | [] => none
  | '"' :: rest => some ([], rest)
  | '\\' :: 'x' :: a :: b :: rest => do (basicText? rest).prepend (← codeChar? [a, b])
  | '\\' :: 'u' :: a :: b :: c :: d :: rest => do
    (basicText? rest).prepend (← codeChar? [a, b, c, d])
  | '\\' :: 'U' :: a :: b :: c :: d :: e :: f :: g :: h :: rest => do
    (basicText? rest).prepend (← codeChar? [a, b, c, d, e, f, g, h])
  | '\\' :: e :: rest => do (basicText? rest).prepend (← escapeChar? e)
  | c :: rest => if isPlain c then (basicText? rest).prepend c else none

/-- Reads a text between single quotes after the first one. -/
def literalText? : List Char → Scan
  | [] => none
  | '\'' :: rest => some ([], rest)
  | c :: rest => if isPlain c then (literalText? rest).prepend c else none

/-- The end of a text in triple quotes: up to two more quotes still belong to it. -/
def closing (quote : Char) : List Char → List Char × List Char
  | a :: b :: rest =>
    if a == quote && b == quote then ([quote, quote], rest)
    else if a == quote then ([quote], b :: rest)
    else ([], a :: b :: rest)
  | [a] => if a == quote then ([quote], []) else ([], [a])
  | [] => ([], [])

/-- Whether only blanks stand before the next line break. -/
def breaksLine (cs : List Char) : Bool :=
  match cs.dropWhile fun c => c == ' ' || c == '\t' with
  | '\n' :: _ | '\r' :: '\n' :: _ => true
  | _ => false

/-- Reads a text of several lines after its opening quotes. A backslash at the end of a line drops
all blanks and line breaks up to the next character; the flag says that they are being dropped. -/
def basicLines? : Bool → List Char → Scan
  | _, [] => none
  | _, '"' :: '"' :: '"' :: rest => some (closing '"' rest)
  | _, '\\' :: 'x' :: a :: b :: rest => do (basicLines? false rest).prepend (← codeChar? [a, b])
  | _, '\\' :: 'u' :: a :: b :: c :: d :: rest => do
    (basicLines? false rest).prepend (← codeChar? [a, b, c, d])
  | _, '\\' :: 'U' :: a :: b :: c :: d :: e :: f :: g :: h :: rest => do
    (basicLines? false rest).prepend (← codeChar? [a, b, c, d, e, f, g, h])
  | dropping, '\r' :: '\n' :: rest =>
    if dropping then basicLines? true rest
    else ((basicLines? false rest).prepend '\n').prepend '\r'
  | dropping, c :: rest =>
    if c == '\\' then
      if breaksLine rest then basicLines? true rest
      else
        match rest with
        | e :: rest => do (basicLines? false rest).prepend (← escapeChar? e)
        | [] => none
    else if dropping && (c == ' ' || c == '\t' || c == '\n') then basicLines? true rest
    else if isPlain c || c == '\n' then (basicLines? false rest).prepend c
    else none

/-- Reads a text of several lines without escapes after its opening quotes. -/
def literalLines? : List Char → Scan
  | [] => none
  | '\'' :: '\'' :: '\'' :: rest => some (closing '\'' rest)
  | '\r' :: '\n' :: rest => ((literalLines? rest).prepend '\n').prepend '\r'
  | c :: rest => if isPlain c || c == '\n' then (literalLines? rest).prepend c else none

/-- Drops a line break at the start of a text. -/
def dropBreak : List Char → List Char
  | '\n' :: rest => rest
  | '\r' :: '\n' :: rest => rest
  | cs => cs

/-- Reads a text in quotes of any kind. -/
def quotedText? : List Char → Scan
  | '"' :: '"' :: '"' :: rest => basicLines? false (dropBreak rest)
  | '\'' :: '\'' :: '\'' :: rest => literalLines? (dropBreak rest)
  | '"' :: rest => basicText? rest
  | '\'' :: rest => literalText? rest
  | _ => none

end DatasetSql.Toml
