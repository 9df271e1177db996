import DatasetSql.Json.Reader
import DatasetSql.Toml.Basic

/-!
# Words of a TOML document

A value without quotes is one word: a truth value, a number, or a moment in time. A word is read as
a whole or not at all.
-/

namespace DatasetSql.Toml

open DatasetSql.Numeric
open Json (digitValue hexValue?)

/-! ## Numbers -/

/-- Digits in which single underscores may stand between two digits, without the underscores. -/
def digits? (isDigit : Char → Bool) : List Char → Option (List Char)
  | [] => none
  | [c] => if isDigit c then some [c] else none
  | c :: '_' :: rest => if isDigit c then (digits? isDigit rest).map (c :: ·) else none
  | c :: rest => if isDigit c then (digits? isDigit rest).map (c :: ·) else none

/-- The value of digits in a base. -/
def valueInBase (base : Nat) (digits : List Char) : Nat :=
  digits.foldl (fun n c => n * base + (hexValue? c).getD 0) 0

/-- Digits that do not start with a needless zero. -/
def wholeDigits? (cs : List Char) : Option (List Char) := do
  let digits ← digits? Char.isDigit cs
  match digits with
  | '0' :: _ :: _ => none
  | _ => some digits

/-- An integer that fits 128 bits, with or without a sign. -/
def integer? (i : Int) : Option Value :=
  if -(pow2 127 : Int) ≤ i ∧ i < pow2 128 then some (.integer i) else none

/-- A sign, if there is one, and the rest of a word; true stands for minus. -/
def splitSign : List Char → Bool × List Char
  | '-' :: cs => (true, cs)
  | '+' :: cs => (false, cs)
  | cs => (false, cs)

/-- The exponent after its mark. -/
def exponent? (cs : List Char) : Option Int := do
  let (negative, cs) := splitSign cs
  let e : Int := valueInBase 10 (← digits? Char.isDigit cs)
  return if negative then -e else e

/-- The fraction after its point and the exponent after that. -/
def fraction? (cs : List Char) : Option (List Char × Int) := do
  let (fraction, rest) := cs.span fun c => c.isDigit || c == '_'
  let digits ← digits? Char.isDigit fraction
  match rest with
  | [] => return (digits, 0)
  | c :: rest => if c == 'e' || c == 'E' then return (digits, ← exponent? rest) else none

/-- The double of digits before and after the point and an exponent. -/
def double? (negative : Bool) (whole fraction : List Char) (exponent : Int) : Option Value := do
  let x ← Double.ofDecimal negative (valueInBase 10 (whole ++ fraction))
    (exponent - fraction.length)
  return .float (.finite x)

/-- A decimal number after its sign. -/
def decimal? (negative : Bool) (cs : List Char) : Option Value := do
  let (whole, rest) := cs.span fun c => c.isDigit || c == '_'
  let digits ← wholeDigits? whole
  match rest with
  | [] =>
    let n : Int := valueInBase 10 digits
    integer? (if negative then -n else n)
  | '.' :: rest =>
    let (fraction, exponent) ← fraction? rest
    double? negative digits fraction exponent
  | c :: rest =>
    if c == 'e' || c == 'E' then double? negative digits [] (← exponent? rest) else none

/-- A number, or one of the words for numbers that are not finite. -/
def number? (word : List Char) : Option Value :=
  match word with
  | '0' :: 'x' :: cs => do
    integer? (valueInBase 16 (← digits? (fun c => (hexValue? c).isSome) cs))
  | '0' :: 'o' :: cs => do
    integer? (valueInBase 8 (← digits? (fun c => '0' ≤ c && c ≤ '7') cs))
  | '0' :: 'b' :: cs => do
    integer? (valueInBase 2 (← digits? (fun c => c == '0' || c == '1') cs))
  | cs =>
    let (negative, rest) := splitSign cs
    if rest == "inf".toList then some (.float (.infinite negative))
    else if rest == "nan".toList then some (.float .nan)
    else decimal? negative rest

/-! ## Moments in time -/

/-- Reads two digits. -/
def twoDigits? : List Char → Option (Nat × List Char)
  | a :: b :: rest =>
    if a.isDigit && b.isDigit then some (digitValue a * 10 + digitValue b, rest) else none
  | _ => none

/-- Reads a character that must come next. -/
def expect? (c : Char) : List Char → Option (List Char)
  | d :: rest => if d == c then some rest else none
  | [] => none

/-- A number below a hundred in two digits. -/
def twoDigitText (n : Nat) : String :=
  String.ofList [Char.ofNat (48 + n / 10 % 10), Char.ofNat (48 + n % 10)]

/-- How many days a month has. -/
def daysInMonth (year month : Nat) : Nat :=
  let leap := year % 4 == 0 && (year % 100 != 0 || year % 400 == 0)
  if month == 2 then (if leap then 29 else 28)
  else if [4, 6, 9, 11].contains month then 30
  else 31

/-- Reads a date of the calendar; gives its text. -/
def date? (cs : List Char) : Option (String × List Char) := do
  let (century, cs) ← twoDigits? cs
  let (yearOfCentury, cs) ← twoDigits? cs
  let (month, cs) ← twoDigits? (← expect? '-' cs)
  let (day, cs) ← twoDigits? (← expect? '-' cs)
  if 1 ≤ month ∧ month ≤ 12 ∧ 1 ≤ day ∧ day ≤ daysInMonth (century * 100 + yearOfCentury) month then
    return (twoDigitText century ++ twoDigitText yearOfCentury ++ "-" ++ twoDigitText month ++ "-" ++
      twoDigitText day, cs)
  else none

/-- The text of a fraction of a second: nine digits at most, without zeros at the end. -/
def secondFraction (digits : List Char) : String :=
  match ((digits.take 9).reverse.dropWhile (· == '0')).reverse with
  | [] => ""
  | ds => String.ofList ('.' :: ds)

/-- Reads seconds with a fraction, if a colon comes next. -/
def seconds? (cs : List Char) : Option (String × List Char) :=
  match cs with
  | ':' :: cs => do
    let (second, cs) ← twoDigits? cs
    if 60 < second then none
    match cs with
    | '.' :: cs =>
      let (fraction, cs) := cs.span Char.isDigit
      if fraction.isEmpty then none
      return (":" ++ twoDigitText second ++ secondFraction fraction, cs)
    | cs => return (":" ++ twoDigitText second, cs)
  | cs => some (":00", cs)

/-- Reads a time of day; gives its text. -/
def time? (cs : List Char) : Option (String × List Char) := do
  let (hour, cs) ← twoDigits? cs
  let (minute, cs) ← twoDigits? (← expect? ':' cs)
  if 23 < hour ∨ 59 < minute then none
  let (seconds, cs) ← seconds? cs
  return (twoDigitText hour ++ ":" ++ twoDigitText minute ++ seconds, cs)

/-- Reads the distance from universal time to the end of a word; gives its text. -/
def offset? : List Char → Option String
  | [] => some ""
  | ['Z'] | ['z'] => some "Z"
  | c :: cs => do
    if c != '+' && c != '-' then none
    let (hours, cs) ← twoDigits? cs
    let (minutes, cs) ← twoDigits? (← expect? ':' cs)
    if 23 < hours ∨ 59 < minutes ∨ !cs.isEmpty then none
    let sign := if c == '-' && 0 < hours + minutes then "-" else "+"
    return sign ++ twoDigitText hours ++ ":" ++ twoDigitText minutes

/-- Whether a character may stand between a date and a time. -/
def isTimeMark (c : Char) : Bool := c == 'T' || c == 't' || c == ' '

/-- A date, a time of day, or both; gives its text. -/
def datetime? (word : List Char) : Option String :=
  match date? word with
  | some (date, []) => some date
  | some (date, mark :: rest) => do
    if !isTimeMark mark then none
    let (time, rest) ← time? rest
    return date ++ "T" ++ time ++ (← offset? rest)
  | none => do
    let (time, rest) ← time? word
    if rest.isEmpty then return time else none

/-! ## Words -/

/-- Whether a word may contain this character. -/
def isWordChar (c : Char) : Bool :=
  c.isAlphanum || c == '+' || c == '-' || c == '_' || c == '.' || c == ':'

/-- Cuts off a word; a date and a time may have a blank between them. -/
def splitWord (cs : List Char) : List Char × List Char :=
  let (word, rest) := cs.span isWordChar
  match rest with
  | ' ' :: c :: rest' =>
    if c.isDigit && (date? word).any (·.2.isEmpty) then
      let (time, rest) := (c :: rest').span isWordChar
      (word ++ ' ' :: time, rest)
    else (word, rest)
  | rest => (word, rest)

/-- The value of a word. -/
def wordValue? (word : List Char) : Option Value :=
  if word == "true".toList then some (.boolean true)
  else if word == "false".toList then some (.boolean false)
  else
    match datetime? word with
    | some text => some (.datetime text)
    | none => number? word

end DatasetSql.Toml
