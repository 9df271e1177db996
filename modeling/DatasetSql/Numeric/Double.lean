import DatasetSql.Numeric.Power

/-!
# Double-precision numbers

A finite double is `± mantissa · 2 ^ exponent`, and every operation is exact arithmetic on natural
numbers followed by one rounding to the nearest double, a tie going to the even mantissa.
-/

namespace DatasetSql.Numeric

/-- A finite double. The normal form has a mantissa below `2 ^ 53` and an exponent of at least
`-1074`, and it has the largest mantissa that these two admit. -/
structure Double where
  negative : Bool
  mantissa : Nat
  exponent : Int
deriving DecidableEq, Repr

/-- A number as a floating-point unit holds it. -/
inductive FloatValue where
  | finite (value : Double)
  | infinite (negative : Bool)
  | nan
deriving DecidableEq, Repr

/-- A quotient rounded to the nearest integer, a tie to the even one. -/
def roundDiv (num den : Nat) : Nat :=
  let q := num / den
  let r := num % den
  if 2 * r < den then q
  else if den < 2 * r then q + 1
  else if q % 2 == 0 then q else q + 1

/-- `num / den · 2 ^ -e` as a quotient of natural numbers. -/
def scaled (num den : Nat) (e : Int) : Nat × Nat :=
  if 0 ≤ e then (num, den * pow2 e.toNat) else (num * pow2 (-e).toNat, den)

/-- The exponent of the double nearest to `num / den`, for a positive quotient. -/
def binaryExponent (num den : Nat) : Int :=
  let guess : Int := (num.log2 : Int) - (den.log2 : Int) - 52
  let (n, d) := scaled num den guess
  max (if n < d * pow2 52 then guess - 1 else guess) (-1074)

namespace Double

/-- Zero with a sign. -/
def zero (negative : Bool) : Double := ⟨negative, 0, -1074⟩

/-- The double nearest to `± num / den`, or `none` where that is beyond the largest one. -/
def ofRatio (negative : Bool) (num den : Nat) : Option Double :=
  if num == 0 then some (zero negative)
  else
    let e := binaryExponent num den
    let (n, d) := scaled num den e
    let m := roundDiv n d
    let (m, e) := if m == pow2 53 then (pow2 52, e + 1) else (m, e)
    if 971 < e then none else some ⟨negative, m, e⟩

/-- The magnitude of a double as a quotient of natural numbers. -/
def ratio (x : Double) : Nat × Nat :=
  if 0 ≤ x.exponent then (x.mantissa * pow2 x.exponent.toNat, 1)
  else (x.mantissa, pow2 (-x.exponent).toNat)

/-- The double nearest to an integer below `2 ^ 1023`. -/
def ofInt (i : Int) : Double :=
  (ofRatio (decide (i < 0)) i.natAbs 1).getD (zero false)

/-- The double nearest to `± digits · 10 ^ power`, or `none` on overflow. Powers far out of range
are decided without being computed: `10 ^ power` is beyond the largest double above `310`, and
`digits · 10 ^ power` is below the least one where `digits · 2 ^ (3 · power)` is. -/
def ofDecimal (negative : Bool) (digits : Nat) (power : Int) : Option Double :=
  if digits == 0 || decide ((digits.log2 : Int) + 1 + 3 * power < -1100) then some (zero negative)
  else if 310 < power then none
  else if 0 ≤ power then ofRatio negative (digits * pow10 power.toNat) 1
  else ofRatio negative digits (pow10 (-power).toNat)

/-- The rounded product, or `none` on overflow. -/
def mul (x y : Double) : Option Double :=
  let (a, b) := x.ratio
  let (c, d) := y.ratio
  ofRatio (x.negative != y.negative) (a * c) (b * d)

/-- The rounded quotient by a nonzero double, or `none` on overflow. -/
def div (x y : Double) : Option Double :=
  let (a, b) := x.ratio
  let (c, d) := y.ratio
  ofRatio (x.negative != y.negative) (a * d) (b * c)

/-- The opposite number. -/
def neg (x : Double) : Double := { x with negative := !x.negative }

/-- The signed mantissa. -/
def signedMantissa (x : Double) : Int :=
  if x.negative then -(x.mantissa : Int) else x.mantissa

/-- The numerator of a double over the common denominator `2 ^ 1074`. -/
def numerator (x : Double) : Int :=
  x.signedMantissa * pow2 (x.exponent + 1074).toNat

/-- Numerical order; both zeros are equal. -/
def lt (x y : Double) : Bool := decide (x.numerator < y.numerator)

/-- Numerical equality; both zeros are equal. -/
def same (x y : Double) : Bool := x.numerator == y.numerator

end Double

end DatasetSql.Numeric
