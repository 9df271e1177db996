import DatasetSql.Numeric.Double

/-!
# Shortest decimal text of a double

The digits are the fewest that read back as the same double, and among those the nearest to it.
How they are laid out (positional or with an exponent) is a `FloatLayout`, one for each format
that writes numbers.
-/

namespace DatasetSql.Numeric

/-- `digits · 10 ^ power`. -/
structure Decimal where
  digits : Nat
  power : Int
deriving DecidableEq, Repr

/-- `a / b ≤ c / d`, strictly unless ends are included. -/
def ratioBelow (inclusive : Bool) (x y : Nat × Nat) : Bool :=
  if inclusive then x.1 * y.2 ≤ y.1 * x.2 else x.1 * y.2 < y.1 * x.2

/-- A decimal as a quotient of natural numbers. -/
def Decimal.ratio (d : Decimal) : Nat × Nat :=
  if 0 ≤ d.power then (d.digits * pow10 d.power.toNat, 1) else (d.digits, pow10 (-d.power).toNat)

namespace Double

/-- The ends of the interval of numbers that round to a double, on a grid four times as fine. -/
def roundingInterval (x : Double) : (Nat × Nat) × (Nat × Nat) :=
  let quarter (m : Nat) : Nat × Nat := (Double.mk false m (x.exponent - 2)).ratio
  let low :=
    if x.mantissa == pow2 52 && -1074 < x.exponent then 4 * x.mantissa - 1 else 4 * x.mantissa - 2
  (quarter low, quarter (4 * x.mantissa + 2))

/-- Whether a decimal reads back as the given double. -/
def readsBack (x : Double) (d : Decimal) : Bool :=
  let (low, high) := x.roundingInterval
  let inclusive := x.mantissa % 2 == 0
  ratioBelow inclusive low d.ratio && ratioBelow inclusive d.ratio high

/-- The least `p` with `x < 10 ^ p`, for a positive double. -/
def pointPosition (x : Double) : Int :=
  let (n, d) := x.ratio
  let guess : Int := (((n.log2 : Int) - (d.log2 : Int)) * 1233).fdiv 4096
  let below (p : Int) : Bool := ratioBelow false (n, d) (Decimal.mk 1 p).ratio
  (([-1, 0, 1, 2].map (guess + ·)).find? below).getD (guess + 3)

/-- The decimal of `k` digits that reads back as `x`, if there is one; of two, the nearer. -/
def decimalOfLength (x : Double) (point : Int) (k : Nat) : Option Decimal :=
  let (n, d) := x.ratio
  let power := point - k
  let (n, d) := if 0 ≤ power then (n, d * pow10 power.toNat) else (n * pow10 (-power).toNat, d)
  let floor := n / d
  let nearest := roundDiv n d
  let other := if nearest == floor then floor + 1 else floor
  let candidate (c : Nat) : Decimal := if c == pow10 k then ⟨1, point⟩ else ⟨c, power⟩
  ([nearest, other].map candidate).find? x.readsBack

/-- The shortest decimal that reads back as `x`; seventeen digits always suffice. -/
def shortest (x : Double) : Decimal :=
  if x.mantissa == 0 then ⟨0, 0⟩
  else
    let point := x.pointPosition
    ((List.range 17).findSome? fun k => x.decimalOfLength point (k + 1)).getD ⟨0, 0⟩

end Double

/-- How the digits of a number are laid out. The point stands `point` places to the right of the
start of the digits. -/
structure FloatLayout where
  /-- Whether a number with this point position is written without exponent. -/
  positional : Int → Bool
  /-- The mark before a positive exponent. -/
  exponentSign : String

/-- Digits and point position without exponent; at least one digit on either side of the point. -/
def positionalText (digits : List Char) (point : Int) : String :=
  let zeros (n : Nat) : List Char := List.replicate n '0'
  let length : Int := digits.length
  if length ≤ point then
    String.ofList (digits ++ zeros (point - length).toNat ++ ['.', '0'])
  else if 0 < point then
    String.ofList (digits.take point.toNat ++ ['.'] ++ digits.drop point.toNat)
  else String.ofList (['0', '.'] ++ zeros (-point).toNat ++ digits)

/-- Digits and point position with an exponent; the point follows the first digit. -/
def exponentText (sign : String) (digits : List Char) (point : Int) : String :=
  let e := point - 1
  let exponent := if 0 ≤ e then sign ++ toString e.toNat else "-" ++ toString (-e).toNat
  match digits with
  | [] => ""
  | [d] => String.singleton d ++ "e" ++ exponent
  | d :: ds => String.ofList (d :: '.' :: ds) ++ "e" ++ exponent

/-- The text of a double in a layout. -/
def FloatLayout.text (layout : FloatLayout) (x : Double) : String :=
  let sign := if x.negative then "-" else ""
  if x.mantissa == 0 then sign ++ "0.0"
  else
    let d := x.shortest
    let digits := (toString d.digits).toList
    let point : Int := digits.length + d.power
    sign ++
      (if layout.positional point then positionalText digits point
      else exponentText layout.exponentSign digits point)

end DatasetSql.Numeric
