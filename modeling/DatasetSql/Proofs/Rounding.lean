import DatasetSql.Numeric.Shortest
import Mathlib.Tactic

/-!
# Rounding to a double

What lies in the rounding interval of a double is rounded to it. The interval reaches half a unit of
the last place to either side, and only a quarter below a power of two.
-/

namespace DatasetSql.Numeric

/-! ## Quotients -/

/-- The number that a quotient of natural numbers stands for. -/
def quotient (q : Nat × Nat) : ℚ := q.1 / q.2

theorem pow2_eq (n : Nat) : pow2 n = 2 ^ n := rfl

theorem cast_pow2 (n : Nat) : (pow2 n : ℚ) = 2 ^ n := Nat.cast_pow 2 n

theorem cast_pow10 (n : Nat) : (pow10 n : ℚ) = 10 ^ n := Nat.cast_pow 10 n

theorem pow2_pos (n : Nat) : 0 < pow2 n := Nat.pow_pos (by decide)

theorem pow10_pos (n : Nat) : 0 < pow10 n := Nat.pow_pos (by decide)

theorem zpow_toNat {a : ℚ} {e : Int} (he : 0 ≤ e) : a ^ e = a ^ e.toNat := by
  conv_lhs => rw [← Int.toNat_of_nonneg he]
  exact zpow_natCast a e.toNat

theorem zpow_neg_toNat {a : ℚ} {e : Int} (he : ¬ 0 ≤ e) : a ^ e = (a ^ (-e).toNat)⁻¹ := by
  rw [← zpow_toNat (by omega), ← zpow_neg, neg_neg]

/-- The comparison of two fractions is that of their quotients. -/
theorem ratioBelow_iff {inclusive : Bool} {x y : Nat × Nat} (hx : 0 < x.2) (hy : 0 < y.2) :
    ratioBelow inclusive x y = true ↔
      if inclusive then quotient x ≤ quotient y else quotient x < quotient y := by
  have hx' : (0 : ℚ) < x.2 := Nat.cast_pos.2 hx
  have hy' : (0 : ℚ) < y.2 := Nat.cast_pos.2 hy
  unfold ratioBelow quotient
  cases inclusive with
  | true =>
    simp only [if_true, decide_eq_true_eq, div_le_div_iff₀ hx' hy']
    exact_mod_cast Iff.rfl
  | false =>
    simp only [Bool.false_eq_true, if_false, decide_eq_true_eq, div_lt_div_iff₀ hx' hy']
    exact_mod_cast Iff.rfl

/-- The number that a decimal stands for. -/
def Decimal.value (d : Decimal) : ℚ := d.digits * 10 ^ d.power

theorem Decimal.ratio_pos (d : Decimal) : 0 < d.ratio.2 := by
  unfold ratio
  split
  · exact Nat.one_pos
  · exact pow10_pos _

theorem Decimal.quotient_ratio (d : Decimal) : quotient d.ratio = d.value := by
  unfold ratio quotient value
  split_ifs with h
  · rw [Nat.cast_mul, cast_pow10, Nat.cast_one, div_one, zpow_toNat h]
  · rw [cast_pow10, zpow_neg_toNat h, div_eq_mul_inv]

theorem scaled_pos {num den : Nat} (hden : 0 < den) (e : Int) : 0 < (scaled num den e).2 := by
  unfold scaled
  split
  · exact Nat.mul_pos hden (pow2_pos _)
  · exact hden

/-- Scaling by a power of two moves the binary point. -/
theorem quotient_scaled (num den : Nat) (e : Int) :
    quotient (scaled num den e) = quotient (num, den) / 2 ^ e := by
  unfold scaled quotient
  split_ifs with h
  · rw [Nat.cast_mul, cast_pow2, zpow_toNat h, div_div]
  · rw [Nat.cast_mul, cast_pow2, zpow_neg_toNat h, div_inv_eq_mul, mul_div_right_comm]

theorem two_zpow_add (e : Int) (n : Nat) : (2 : ℚ) ^ (e + n) = 2 ^ n * 2 ^ e := by
  rw [zpow_add₀ two_ne_zero, zpow_natCast, mul_comm]

/-- A number of at least `a · 2 ^ 52` and below `a · 2 ^ 53` has the binary exponent of `a`. -/
theorem two_zpow_unique {q : ℚ} {e e' : Int} (h : 2 ^ (e + 52) ≤ q) (h' : q < 2 ^ (e + 53))
    (hlow : 2 ^ (e' + 52) ≤ q) (hhigh : q < 2 ^ (e' + 53)) : e = e' := by
  have h1 : e + 52 < e' + 53 := (zpow_lt_zpow_iff_right₀ one_lt_two).1 (h.trans_lt hhigh)
  have h2 : e' + 52 < e + 53 := (zpow_lt_zpow_iff_right₀ one_lt_two).1 (hlow.trans_lt h')
  omega

/-- The logarithms of two numbers tell the size of their quotient. -/
theorem quotient_log2 {num den : Nat} (hnum : num ≠ 0) (hden : den ≠ 0) :
    2 ^ ((num.log2 : Int) - den.log2 - 1) < quotient (num, den) ∧
      quotient (num, den) < 2 ^ ((num.log2 : Int) - den.log2 + 1) := by
  have hn : (2 : ℚ) ^ num.log2 ≤ num := by exact_mod_cast Nat.log2_self_le hnum
  have hn' : (num : ℚ) < 2 ^ (num.log2 + 1) := by exact_mod_cast Nat.lt_log2_self
  have hd : (2 : ℚ) ^ den.log2 ≤ den := by exact_mod_cast Nat.log2_self_le hden
  have hd' : (den : ℚ) < 2 ^ (den.log2 + 1) := by exact_mod_cast Nat.lt_log2_self
  have hpos : (0 : ℚ) < den := Nat.cast_pos.2 (Nat.pos_of_ne_zero hden)
  -- numerator and denominator are each within a factor of two of their power
  unfold quotient
  constructor
  · rw [lt_div_iff₀ hpos]
    calc (2 : ℚ) ^ ((num.log2 : Int) - den.log2 - 1) * den
        < 2 ^ ((num.log2 : Int) - den.log2 - 1) * 2 ^ (den.log2 + 1) :=
          mul_lt_mul_of_pos_left hd' (by positivity)
      _ = 2 ^ num.log2 := by
          rw [← zpow_natCast, ← zpow_natCast, ← zpow_add₀ two_ne_zero]
          congr 1
          push_cast
          ring
      _ ≤ num := hn
  · rw [div_lt_iff₀ hpos]
    calc (num : ℚ) < 2 ^ (num.log2 + 1) := hn'
      _ = 2 ^ ((num.log2 : Int) - den.log2 + 1) * 2 ^ den.log2 := by
          rw [← zpow_natCast, ← zpow_natCast, ← zpow_add₀ two_ne_zero]
          congr 1
          push_cast
          ring
      _ ≤ 2 ^ ((num.log2 : Int) - den.log2 + 1) * den :=
          mul_le_mul_of_nonneg_left hd (by positivity)

/-- Down to the least exponent, the binary exponent of a quotient is that of a mantissa of 53
bits. -/
theorem exists_binaryExponent {num den : Nat} (hnum : num ≠ 0) (hden : den ≠ 0) :
    ∃ e : Int, binaryExponent num den = max e (-1074) ∧
      2 ^ (e + 52) ≤ quotient (num, den) ∧ quotient (num, den) < 2 ^ (e + 53) := by
  obtain ⟨hlow, hhigh⟩ := quotient_log2 hnum hden
  set guess : Int := (num.log2 : Int) - den.log2 - 52 with hguess
  have hscaled := quotient_scaled num den guess
  have hpos := @scaled_pos num den (Nat.pos_of_ne_zero hden) guess
  -- the guess is right, or one too large
  have htest : (scaled num den guess).1 < (scaled num den guess).2 * pow2 52 ↔
      quotient (num, den) < 2 ^ (guess + 52) := by
    have hpos' : (0 : ℚ) < (scaled num den guess).2 := Nat.cast_pos.2 hpos
    have hiff : (scaled num den guess).1 < (scaled num den guess).2 * pow2 52 ↔
        quotient (scaled num den guess) < 2 ^ 52 := by
      rw [quotient, div_lt_iff₀ hpos', mul_comm, ← cast_pow2 52]
      exact_mod_cast Iff.rfl
    rw [hiff, hscaled, div_lt_iff₀ (by positivity), zpow_add₀ two_ne_zero, mul_comm]
    norm_cast
  unfold binaryExponent
  simp only [← hguess]
  by_cases hcase : quotient (num, den) < 2 ^ (guess + 52)
  · refine ⟨guess - 1, ?_, ?_, ?_⟩
    · rw [if_pos (htest.2 hcase)]
    · have h : guess - 1 + 52 = (num.log2 : Int) - den.log2 - 1 := by omega
      rw [h]
      exact hlow.le
    · have h : guess - 1 + 53 = guess + 52 := by omega
      rw [h]
      exact hcase
  · refine ⟨guess, ?_, not_lt.1 hcase, ?_⟩
    · rw [if_neg fun h => hcase (htest.1 h)]
    · have h : guess + 53 = (num.log2 : Int) - den.log2 + 1 := by omega
      rw [h]
      exact hhigh

/-- A quotient that is nearer to an integer than to any other is rounded to it, and so is one halfway
to an even integer. -/
theorem roundDiv_eq {num den m : Nat} (hden : 0 < den)
    (h : if m % 2 = 0 then (m : ℚ) - 1 / 2 ≤ quotient (num, den) ∧ quotient (num, den) ≤ m + 1 / 2
      else (m : ℚ) - 1 / 2 < quotient (num, den) ∧ quotient (num, den) < m + 1 / 2) :
    roundDiv num den = m := by
  have hpos : (0 : ℚ) < den := Nat.cast_pos.2 hden
  have hnum : num = den * (num / den) + num % den := (Nat.div_add_mod num den).symm
  have hmod : num % den < den := Nat.mod_lt num hden
  unfold quotient at h
  -- without the quotient, the bounds are about natural numbers
  have hbounds : 2 * (m * den) ≤ 2 * num + den ∧ 2 * num ≤ 2 * (m * den) + den ∧
      (m % 2 = 1 → 2 * (m * den) < 2 * num + den ∧ 2 * num < 2 * (m * den) + den) := by
    split_ifs at h with heven
    · obtain ⟨hlow, hhigh⟩ := h
      rw [le_div_iff₀ hpos] at hlow
      rw [div_le_iff₀ hpos] at hhigh
      refine ⟨?_, ?_, fun hodd => by omega⟩
      · have : (2 * (m * den) : ℚ) ≤ 2 * num + den := by linarith
        exact_mod_cast this
      · have : (2 * num : ℚ) ≤ 2 * (m * den) + den := by linarith
        exact_mod_cast this
    · obtain ⟨hlow, hhigh⟩ := h
      rw [lt_div_iff₀ hpos] at hlow
      rw [div_lt_iff₀ hpos] at hhigh
      have hlow' : 2 * (m * den) < 2 * num + den := by
        have : (2 * (m * den) : ℚ) < 2 * num + den := by linarith
        exact_mod_cast this
      have hhigh' : 2 * num < 2 * (m * den) + den := by
        have : (2 * num : ℚ) < 2 * (m * den) + den := by linarith
        exact_mod_cast this
      exact ⟨hlow'.le, hhigh'.le, fun _ => ⟨hlow', hhigh'⟩⟩
  obtain ⟨hlow, hhigh, hodd⟩ := hbounds
  set q := num / den
  set r := num % den
  -- the integer is the quotient rounded down or the next one
  have hq : m = q ∨ m = q + 1 := by
    have h1 : m < q + 2 := by
      by_contra hge
      have : (q + 2) * den ≤ m * den := Nat.mul_le_mul_right den (not_lt.1 hge)
      nlinarith
    have h2 : q ≤ m := by
      by_contra hlt
      have : (m + 1) * den ≤ q * den := Nat.mul_le_mul_right den (by omega)
      nlinarith
    omega
  have hcomm : q * den = den * q := Nat.mul_comm q den
  unfold roundDiv
  rcases hq with hm | hm
  · have hmq : m * den = den * q := by rw [hm, Nat.mul_comm]
    by_cases h1 : 2 * r < den
    · rw [if_pos h1, hm]
    · have h2 : ¬ den < 2 * r := by omega
      have heven : q % 2 = 0 := by
        by_contra hne
        have := hodd (by omega)
        omega
      rw [if_neg h1, if_neg h2, if_pos (by simpa using heven), hm]
  · have hmq : m * den = den * q + den := by rw [hm, Nat.add_mul, hcomm, Nat.one_mul]
    by_cases h1 : 2 * r < den
    · exfalso
      omega
    · by_cases h2 : den < 2 * r
      · rw [if_neg h1, if_pos h2, hm]
      · have hne : q % 2 ≠ 0 := by
          intro heven
          have := hodd (by omega)
          omega
        rw [if_neg h1, if_neg h2, if_neg (by simpa using hne), hm]

/-! ## Rounding to a double -/

namespace Double

/-- The magnitude of a double. -/
def size (x : Double) : ℚ := x.mantissa * 2 ^ x.exponent

/-- A double in its normal form: the mantissa has 53 bits, or the exponent is the least one. -/
structure Normal (x : Double) : Prop where
  mantissa_lt : x.mantissa < 2 ^ 53
  exponent_ge : -1074 ≤ x.exponent
  exponent_le : x.exponent ≤ 971
  full : 2 ^ 52 ≤ x.mantissa ∨ x.exponent = -1074

theorem ratio_pos (x : Double) : 0 < x.ratio.2 := by
  unfold ratio
  split
  · exact Nat.one_pos
  · exact pow2_pos _

theorem quotient_ratio (x : Double) : quotient x.ratio = x.size := by
  unfold ratio quotient size
  split_ifs with h
  · rw [Nat.cast_mul, cast_pow2, Nat.cast_one, div_one, zpow_toNat h]
  · rw [cast_pow2, zpow_neg_toNat h, div_eq_mul_inv]

/-- How far below its mantissa a double reaches: half a unit, or a quarter where the doubles below
are twice as dense. -/
def reach (x : Double) : ℚ := if x.mantissa = 2 ^ 52 ∧ -1074 < x.exponent then 1 / 4 else 1 / 2

/-- A number lies in the rounding interval of a double; the ends count if the mantissa is even. -/
def Rounds (x : Double) (q : ℚ) : Prop :=
  if x.mantissa % 2 = 0 then
    (x.mantissa - x.reach) * 2 ^ x.exponent ≤ q ∧ q ≤ (x.mantissa + 1 / 2) * 2 ^ x.exponent
  else (x.mantissa - x.reach) * 2 ^ x.exponent < q ∧ q < (x.mantissa + 1 / 2) * 2 ^ x.exponent

variable {x : Double}

/-- What rounds to a number is no farther from it than half the way to its neighbours. -/
theorem Rounds.le {q : ℚ} (h : x.Rounds q) :
    (x.mantissa - x.reach) * 2 ^ x.exponent ≤ q ∧ q ≤ (x.mantissa + 1 / 2) * 2 ^ x.exponent := by
  unfold Rounds at h
  split_ifs at h with heven
  · exact h
  · exact ⟨h.1.le, h.2.le⟩

theorem reach_le (x : Double) : x.reach ≤ 1 / 2 := by
  unfold reach
  split <;> norm_num

/-- Only positive numbers round to a number with a mantissa. -/
theorem Rounds.pos (hm : x.mantissa ≠ 0) {q : ℚ} (h : x.Rounds q) : 0 < q := by
  have hpow : (0 : ℚ) < 2 ^ x.exponent := by positivity
  have hm1 : (1 : ℚ) ≤ x.mantissa := by exact_mod_cast Nat.one_le_iff_ne_zero.2 hm
  have hreach := x.reach_le
  have hend : 0 < (x.mantissa - x.reach) * 2 ^ x.exponent := mul_pos (by linarith) hpow
  exact hend.trans_le h.le.1

/-- A double is below the power of two that its mantissa may not reach. -/
theorem Rounds.lt (hx : x.Normal) {q : ℚ} (h : x.Rounds q) : q < 2 ^ (x.exponent + 53) := by
  have hpow : (0 : ℚ) < 2 ^ x.exponent := by positivity
  have hmantissa : ((x.mantissa + 1 : ℕ) : ℚ) ≤ ((2 ^ 53 : ℕ) : ℚ) := Nat.cast_le.2 hx.mantissa_lt
  rw [Nat.cast_add, Nat.cast_one, Nat.cast_pow, Nat.cast_ofNat] at hmantissa
  have hsplit : (2 : ℚ) ^ (x.exponent + 53) = 2 ^ 53 * 2 ^ x.exponent := two_zpow_add x.exponent 53
  rw [hsplit]
  exact h.le.2.trans_lt (mul_lt_mul_of_pos_right (by linarith) hpow)

/-- In units of its last place, what rounds to a double is divided to its mantissa. -/
theorem Rounds.roundDiv {num den : Nat} (hden : 0 < den) (h : x.Rounds (quotient (num, den))) :
    roundDiv (scaled num den x.exponent).1 (scaled num den x.exponent).2 = x.mantissa := by
  have hpow : (0 : ℚ) < 2 ^ x.exponent := by positivity
  have hreach := x.reach_le
  apply roundDiv_eq (scaled_pos hden x.exponent)
  rw [Prod.mk.eta, quotient_scaled]
  unfold Rounds at h
  split_ifs at h with heven
  · rw [if_pos heven]
    rw [← le_div_iff₀ hpow, ← div_le_iff₀ hpow] at h
    exact ⟨by linarith [h.1], h.2⟩
  · rw [if_neg heven]
    rw [← lt_div_iff₀ hpow, ← div_lt_iff₀ hpow] at h
    exact ⟨by linarith [h.1], h.2⟩

/-- Where a number that rounds to a double has a smaller exponent than the double, the double is a
power of two, and in smaller units the number is divided to the next one. -/
theorem Rounds.roundDiv_carry (hx : x.Normal) {num den : Nat} (hden : 0 < den)
    (h : x.Rounds (quotient (num, den))) (hexponent : -1074 < x.exponent)
    (hlt : quotient (num, den) < 2 ^ (x.exponent + 52)) :
    x.mantissa = 2 ^ 52 ∧ 2 ^ (x.exponent - 1 + 52) ≤ quotient (num, den) ∧
      Numeric.roundDiv (scaled num den (x.exponent - 1)).1 (scaled num den (x.exponent - 1)).2 =
        2 ^ 53 := by
  have hpow : (0 : ℚ) < 2 ^ x.exponent := by positivity
  have hfull : 2 ^ 52 ≤ x.mantissa := hx.full.resolve_right hexponent.ne'
  have hsplit : (2 : ℚ) ^ (x.exponent + 52) = 2 ^ 52 * 2 ^ x.exponent := two_zpow_add x.exponent 52
  have hhalf : (2 : ℚ) ^ x.exponent = 2 * 2 ^ (x.exponent - 1) := by
    rw [← zpow_one_add₀ two_ne_zero]
    congr 1
    omega
  have hlow := h.le.1
  rw [hsplit, ← div_lt_iff₀ hpow] at hlt
  rw [← le_div_iff₀ hpow] at hlow
  -- with a larger mantissa the quotient would not be below the power
  have hmantissa : x.mantissa = 2 ^ 52 := by
    by_contra hne
    have hmore : ((2 ^ 52 + 1 : ℕ) : ℚ) ≤ x.mantissa :=
      Nat.cast_le.2 (Nat.lt_of_le_of_ne hfull (Ne.symm hne))
    rw [Nat.cast_add, Nat.cast_one, Nat.cast_pow, Nat.cast_ofNat] at hmore
    have hreach := x.reach_le
    linarith
  have hreach : x.reach = 1 / 4 := if_pos ⟨hmantissa, hexponent⟩
  rw [hreach, hmantissa, Nat.cast_pow, Nat.cast_ofNat] at hlow
  refine ⟨hmantissa, ?_, ?_⟩
  · have hsplit' : (2 : ℚ) ^ (x.exponent - 1 + 52) = 2 ^ 52 * 2 ^ (x.exponent - 1) :=
      two_zpow_add (x.exponent - 1) 52
    have hsmall : (0 : ℚ) < 2 ^ (x.exponent - 1) := by positivity
    rw [le_div_iff₀ hpow, hhalf] at hlow
    rw [hsplit']
    nlinarith
  · apply roundDiv_eq (scaled_pos hden _)
    -- one exponent lower, the quotient is twice as large
    have hdouble : quotient (num, den) / 2 ^ (x.exponent - 1) =
        2 * (quotient (num, den) / 2 ^ x.exponent) := by
      rw [hhalf]
      field_simp
    rw [Prod.mk.eta, quotient_scaled, hdouble, if_pos (by decide), Nat.cast_pow, Nat.cast_ofNat]
    have hnext : (2 : ℚ) ^ 53 = 2 * 2 ^ 52 := by norm_num
    rw [hnext]
    constructor
    · linarith
    · linarith

/-- A double from a mantissa and its exponent; a mantissa that rounding made too large is the next
power of two. -/
def carried (negative : Bool) (m : Nat) (e : Int) : Option Double :=
  let (m, e) := if m == pow2 53 then (pow2 52, e + 1) else (m, e)
  if 971 < e then none else some ⟨negative, m, e⟩

/-- A mantissa that fits is taken as it is. -/
theorem carried_of_ne {negative : Bool} {m : Nat} {e : Int} (hm : m ≠ pow2 53) (he : e ≤ 971) :
    carried negative m e = some ⟨negative, m, e⟩ := by
  unfold carried
  rw [if_neg (by simpa using hm)]
  exact if_neg (by omega)

/-- A mantissa that is rounded up to the next power of two is carried into the exponent. -/
theorem carried_pow2 {negative : Bool} {e : Int} (he : e + 1 ≤ 971) :
    carried negative (pow2 53) e = some ⟨negative, pow2 52, e + 1⟩ := by
  unfold carried
  rw [if_pos (beq_self_eq_true _)]
  exact if_neg (by omega)

/-- A fraction is rounded in the unit of its binary exponent. -/
theorem ofRatio_eq_carried (negative : Bool) {num den : Nat} (hnum : num ≠ 0) {e : Int}
    (he : binaryExponent num den = e) : ofRatio negative num den =
      carried negative (roundDiv (scaled num den e).1 (scaled num den e).2) e := by
  unfold ofRatio
  rw [if_neg (by simpa using hnum), he]
  dsimp only
  -- left as it is, the quotient would be computed
  generalize scaled num den e = q
  rfl

/-- What lies in the rounding interval of a double is rounded to it. -/
theorem ofRatio_of_rounds (hx : x.Normal) (hm : x.mantissa ≠ 0) {num den : Nat} (hden : 0 < den)
    (h : x.Rounds (quotient (num, den))) (negative : Bool) :
    ofRatio negative num den = some { x with negative } := by
  have hpos := h.pos hm
  have hnum : num ≠ 0 := by
    rintro rfl
    simp [quotient] at hpos
  obtain ⟨e, he, hlow, hhigh⟩ := exists_binaryExponent hnum hden.ne'
  have hge := hx.exponent_ge
  have hle := hx.exponent_le
  have hbelow := h.lt hx
  by_cases hcarry : quotient (num, den) < 2 ^ (x.exponent + 52) ∧ -1074 < x.exponent
  · -- the number has one bit less than the double
    obtain ⟨hmantissa, hleast, hround⟩ := h.roundDiv_carry hx hden hcarry.2 hcarry.1
    have hexponent : e = x.exponent - 1 := by
      refine two_zpow_unique hlow hhigh hleast ?_
      have hsame : x.exponent - 1 + 53 = x.exponent + 52 := by omega
      rw [hsame]
      exact hcarry.1
    have hmax : max e (-1074) = x.exponent - 1 := by omega
    rw [ofRatio_eq_carried negative hnum (he.trans hmax), hround, ← pow2_eq,
      carried_pow2 (by omega), sub_add_cancel, pow2_eq, ← hmantissa]
  · have hmax : max e (-1074) = x.exponent := by
      by_cases hlarge : 2 ^ (x.exponent + 52) ≤ quotient (num, den)
      · have hexponent : e = x.exponent := two_zpow_unique hlow hhigh hlarge hbelow
        omega
      · have hleast : x.exponent = -1074 := by
          by_contra hne
          exact hcarry ⟨not_le.1 hlarge, by omega⟩
        have hlt : e + 52 < x.exponent + 52 :=
          (zpow_lt_zpow_iff_right₀ one_lt_two).1 (hlow.trans_lt (not_le.1 hlarge))
        omega
    have hne : x.mantissa ≠ pow2 53 := hx.mantissa_lt.ne
    rw [ofRatio_eq_carried negative hnum (he.trans hmax), h.roundDiv hden, carried_of_ne hne hle]

end Double

end DatasetSql.Numeric
