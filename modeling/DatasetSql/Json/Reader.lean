import DatasetSql.Json.Basic

/-!
# Reading JSON

A document is one value between blanks. A number is read as the leading digits that fit 64 bits,
times a power of ten; integers without point and exponent stay integers while they fit. What a
reader cannot represent (a number out of range, half of a surrogate pair) is kept as an empty leaf.
-/

namespace DatasetSql.Json

open DatasetSql.Numeric

/-! ## Numbers -/

/-- The largest unsigned 64-bit integer. -/
def maxWord : Nat := wordCount - 1

/-- The value of a decimal digit. -/
def digitValue (c : Char) : Nat := c.toNat - 48

/-- Digits read so far: the significand, the power of ten it stands for, and whether a digit has
been left out because the significand was full. -/
structure Significand where
  value : Nat := 0
  power : Int := 0
  full : Bool := false

/-- Reads a digit before the point. -/
def Significand.integerDigit (s : Significand) (c : Char) : Significand :=
  let next := s.value * 10 + digitValue c
  if s.full || maxWord < next then { s with power := s.power + 1, full := true }
  else { s with value := next }

/-- Reads a digit after the point; the flag says whether an earlier one was left out. -/
def Significand.fractionDigit (s : Significand × Bool) (c : Char) : Significand × Bool :=
  let next := s.1.value * 10 + digitValue c
  if s.2 || maxWord < next then (s.1, true)
  else ({ s.1 with value := next, power := s.1.power - 1 }, false)

/-- `value · 10 ^ power`, rounded after the significand and after each scaling. Powers below
`-308` are reached in two steps. -/
def scaledDouble (value : Nat) (power : Int) : Option Double := do
  let f := Double.ofInt value
  if value = 0 then return f
  if 308 < power then none
  else if 0 ≤ power then f.mul (← Double.ofDecimal false 1 power)
  else if -308 ≤ power then f.div (← Double.ofDecimal false 1 (-power))
  else if -616 ≤ power then
    let g ← f.div (← Double.ofDecimal false 1 308)
    g.div (← Double.ofDecimal false 1 (-power - 308))
  else return Double.zero false

/-- The parts of a number as written. -/
structure Numeral where
  negative : Bool
  integer : List Char
  fraction : Option (List Char)
  /-- Sign (true for plus) and digits. -/
  exponent : Option (Bool × List Char)

/-- The double of a sign and a magnitude. -/
def signed (negative : Bool) (x : Double) : Double := if negative then x.neg else x

/-- The number that a numeral stands for, or `none` if it is out of range. -/
def Numeral.number? (n : Numeral) : Option Number :=
  let s := n.integer.foldl Significand.integerDigit {}
  match n.fraction, n.exponent, s.full with
  | none, none, false =>
    if !n.negative then some (.int s.value)
    else if 0 < s.value ∧ s.value ≤ signedBound then some (.int (-(s.value : Int)))
    else some (.float (Double.ofInt s.value).neg)
  | fraction, exponent, _ =>
    let s := ((fraction.getD []).foldl Significand.fractionDigit (s, false)).1
    match exponent with
    | none => (scaledDouble s.value s.power).map fun x => .float (signed n.negative x)
    | some (plus, digits) =>
      let e : Int := digits.foldl (fun acc c => acc * 10 + digitValue c) 0
      (scaledDouble s.value (if plus then s.power + e else s.power - e)).map fun x =>
        .float (signed n.negative x)

/-- Reads the integer part: a single zero, or digits that do not start with one. -/
def readInteger : List Char → Option (List Char × List Char)
  | '0' :: rest => if rest.head?.any Char.isDigit then none else some (['0'], rest)
  | cs =>
    let (digits, rest) := cs.span Char.isDigit
    if digits.isEmpty then none else some (digits, rest)

/-- Reads a point and at least one digit, if a point comes next. -/
def readFraction : List Char → Option (Option (List Char) × List Char)
  | '.' :: cs =>
    let (digits, rest) := cs.span Char.isDigit
    if digits.isEmpty then none else some (some digits, rest)
  | cs => some (none, cs)

/-- Reads the sign of an exponent; true stands for plus, also where there is none. -/
def readSign : List Char → Bool × List Char
  | '+' :: cs => (true, cs)
  | '-' :: cs => (false, cs)
  | cs => (true, cs)

/-- Reads an exponent mark, sign and at least one digit, if a mark comes next. -/
def readExponent : List Char → Option (Option (Bool × List Char) × List Char)
  | c :: cs =>
    if c == 'e' || c == 'E' then
      let (plus, cs) := readSign cs
      let (digits, rest) := cs.span Char.isDigit
      if digits.isEmpty then none else some (some (plus, digits), rest)
    else some (none, c :: cs)
  | [] => some (none, [])

/-- Reads a number from its first digit. -/
def readNumber (negative : Bool) (cs : List Char) : Option (Data × List Char) := do
  let (integer, cs) ← readInteger cs
  let (fraction, cs) ← readFraction cs
  let (exponent, cs) ← readExponent cs
  return (.number (Numeral.mk negative integer fraction exponent).number?, cs)

/-! ## Strings -/

/-- The value of a hexadecimal digit. -/
def hexValue? (c : Char) : Option Nat :=
  if c.isDigit then some (c.toNat - 48)
  else if 'a' ≤ c ∧ c ≤ 'f' then some (c.toNat - 87)
  else if 'A' ≤ c ∧ c ≤ 'F' then some (c.toNat - 55)
  else none

/-- The value of four hexadecimal digits. -/
def hexWord? (a b c d : Char) : Option Nat := do
  return (((← hexValue? a) * 16 + (← hexValue? b)) * 16 + (← hexValue? c)) * 16 + (← hexValue? d)

/-- The character of a single-letter escape. -/
def simpleEscape? : Char → Option Char
  | '"' => some '"'
  | '\\' => some '\\'
  | '/' => some '/'
  | 'b' => some (Char.ofNat 8)
  | 'f' => some (Char.ofNat 12)
  | 'n' => some '\n'
  | 'r' => some '\r'
  | 't' => some '\t'
  | _ => none

/-- The first half of a surrogate pair. -/
def isHighSurrogate (n : Nat) : Bool := 0xd800 ≤ n && n ≤ 0xdbff

/-- The second half of a surrogate pair. -/
def isLowSurrogate (n : Nat) : Bool := 0xdc00 ≤ n && n ≤ 0xdfff

/-- Adds a character to a string that may already be unrepresentable. -/
def addChar (c : Char) (s : Option (List Char)) : Option (List Char) := s.map (c :: ·)

/-- Reads a string after its opening quote. The outer `none` is a malformed string, the inner one
a string with half of a surrogate pair. -/
def readString : List Char → Option (Option (List Char) × List Char)
  | [] => none
  | '"' :: rest => some (some [], rest)
  | '\\' :: 'u' :: a :: b :: c :: d :: '\\' :: 'u' :: a' :: b' :: c' :: d' :: rest => do
    let high ← hexWord? a b c d
    if isHighSurrogate high then
      let low ← hexWord? a' b' c' d'
      if isLowSurrogate low then
        let (s, out) ← readString rest
        let code := 0x10000 + (high - 0xd800) * 0x400 + (low - 0xdc00)
        return (addChar (Char.ofNat code) s, out)
      else
        let (_, out) ← readString rest
        return (none, out)
    else
      let (s, out) ← readString ('\\' :: 'u' :: a' :: b' :: c' :: d' :: rest)
      return (if isLowSurrogate high then none else addChar (Char.ofNat high) s, out)
  | '\\' :: 'u' :: a :: b :: c :: d :: rest => do
    let code ← hexWord? a b c d
    let (s, out) ← readString rest
    return (if isHighSurrogate code || isLowSurrogate code then none
      else addChar (Char.ofNat code) s, out)
  | '\\' :: e :: rest => do
    let c ← simpleEscape? e
    let (s, out) ← readString rest
    return (addChar c s, out)
  | c :: rest =>
    if c.toNat < 32 then none
    else do
      let (s, out) ← readString rest
      return (addChar c s, out)
termination_by cs => cs.length

/-! ## Values -/

/-- The blanks that may stand between the parts of a document. -/
def isBlank (c : Char) : Bool := c == ' ' || c == '\n' || c == '\t' || c == '\r'

/-- Passes over blanks. -/
def skipBlanks (cs : List Char) : List Char := cs.dropWhile isBlank

/-- Reads one of the three words. -/
def readWord (cs : List Char) : Option (Data × List Char) :=
  [("null", Data.null), ("true", .bool true), ("false", .bool false)].findSome? fun (word, d) =>
    if word.toList.isPrefixOf cs then some (d, cs.drop word.length) else none

mutual

/-- Reads a value that starts at the first character; the fuel bounds the nesting. -/
def readValue : Nat → List Char → Option (Data × List Char)
  | 0, _ => none
  | fuel + 1, cs =>
    match cs with
    | '"' :: rest => do
      let (s, rest) ← readString rest
      return (.text (s.map String.ofList), rest)
    | '-' :: rest => readNumber true rest
    | '[' :: rest =>
      match skipBlanks rest with
      | ']' :: rest => some (.list [], rest)
      | rest => do
        let (items, rest) ← readItems fuel rest
        return (.list items, rest)
    | '\x7b' :: rest =>
      match skipBlanks rest with
      | '\x7d' :: rest => some (.record [], rest)
      | rest => do
        let (fields, rest) ← readFields fuel rest
        return (.record fields, rest)
    | c :: rest => if c.isDigit then readNumber false (c :: rest) else readWord (c :: rest)
    | [] => none

/-- Reads the items of an array up to its closing bracket. -/
def readItems : Nat → List Char → Option (List Data × List Char)
  | 0, _ => none
  | fuel + 1, cs => do
    let (item, rest) ← readValue fuel (skipBlanks cs)
    match skipBlanks rest with
    | ',' :: rest =>
      let (items, rest) ← readItems fuel rest
      return (item :: items, rest)
    | ']' :: rest => return ([item], rest)
    | _ => none

/-- Reads the fields of an object up to its closing brace. -/
def readFields : Nat → List Char → Option (List (Option String × Data) × List Char)
  | 0, _ => none
  | fuel + 1, cs => do
    match skipBlanks cs with
    | '"' :: rest =>
      let (key, rest) ← readString rest
      match skipBlanks rest with
      | ':' :: rest =>
        let (value, rest) ← readValue fuel (skipBlanks rest)
        let field := (key.map String.ofList, value)
        match skipBlanks rest with
        | ',' :: rest =>
          let (fields, rest) ← readFields fuel rest
          return (field :: fields, rest)
        | '\x7d' :: rest => return ([field], rest)
        | _ => none
      | _ => none
    | _ => none

end

/-- Reads a whole document. -/
def Data.parse? (text : String) : Option Data := do
  let cs := text.toList
  let (data, rest) ← readValue (cs.length + 1) (skipBlanks cs)
  if (skipBlanks rest).isEmpty then return data else none

/-- The deepest nesting of arrays and objects that a document may have. -/
def maxDepth : Nat := 127

/-- Reads a whole document as a value. -/
def Value.parse? (text : String) : Option Value := do
  (← Data.parse? text).value? (some maxDepth)

end DatasetSql.Json
