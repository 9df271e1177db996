import DatasetSql.Proofs.Rounding

/-!
# Decimals of a double

The shortest decimal of a double is read as that double: it lies in the rounding interval, since
seventeen digits are enough to find a decimal there.
-/

namespace DatasetSql.Numeric

/-- By 1233 / 4096 binary places become decimal ones, and rounded down they are not too many. -/
theorem pow10_le_pow2 : ∀ n < 1100, 10 ^ (n * 1233 / 4096) ≤ 2 ^ n := by
  decide +kernel

/-- Rounded up, two more places are enough. -/
theorem pow2_le_pow10 : ∀ n < 1100, 2 ^ (n + 1) ≤ 10 ^ ((n * 1233 + 4095) / 4096 + 2) := by
  decide +kernel

/-- The guess of a power of ten from a power of two is less than two too large. -/
theorem guess_le {l : Int} (hlow : -1100 < l) (hhigh : l < 1100) :
    (10 : ℚ) ^ ((l * 1233).fdiv 4096 - 2) ≤ 2 ^ (l - 1) := by
  rw [Int.fdiv_eq_ediv_of_nonneg _ (by decide)]
  obtain ⟨n, rfl | rfl⟩ := l.eq_nat_or_neg
  · have hguess : (n : Int) * 1233 / 4096 = (n * 1233 / 4096 : ℕ) := by omega
    have hle : (10 : ℚ) ^ (n * 1233 / 4096) ≤ 2 ^ n := by
      exact_mod_cast pow10_le_pow2 n (by omega)
    have hpos : (0 : ℚ) < 2 ^ n := by positivity
    rw [hguess, zpow_sub₀ (by norm_num), zpow_sub₀ (by norm_num), zpow_natCast, zpow_natCast]
    norm_num
    linarith
  · have hguess : -(n : Int) * 1233 / 4096 - 2 = -((n * 1233 + 4095) / 4096 + 2 : ℕ) := by omega
    have hnext : -(n : Int) - 1 = -(n + 1 : ℕ) := by omega
    have hle : (2 : ℚ) ^ (n + 1) ≤ 10 ^ ((n * 1233 + 4095) / 4096 + 2) := by
      exact_mod_cast pow2_le_pow10 n (by omega)
    rw [hguess, hnext, zpow_neg, zpow_neg, zpow_natCast, zpow_natCast]
    exact inv_anti₀ (by positivity) hle

/-- A quotient is rounded by no more than a half. -/
theorem roundDiv_near {num den : Nat} (hden : 0 < den) :
    quotient (num, den) - 1 / 2 ≤ roundDiv num den ∧
      (roundDiv num den : ℚ) ≤ quotient (num, den) + 1 / 2 := by
  have hpos : (0 : ℚ) < den := Nat.cast_pos.2 hden
  have hnum : num = den * (num / den) + num % den := (Nat.div_add_mod num den).symm
  have hmod : num % den < den := Nat.mod_lt num hden
  -- doubled, the two bounds are about natural numbers
  have hnat : 2 * num ≤ 2 * (roundDiv num den * den) + den ∧
      2 * (roundDiv num den * den) ≤ 2 * num + den := by
    have hcomm (q : Nat) : q * den = den * q := Nat.mul_comm q den
    have hnext : (num / den + 1) * den = den * (num / den) + den := by
      rw [Nat.add_mul, hcomm, Nat.one_mul]
    unfold roundDiv
    dsimp only
    split_ifs
    · rw [hcomm]
      omega
    · rw [hnext]
      omega
    · rw [hcomm]
      omega
    · rw [hnext]
      omega
  obtain ⟨hlow, hhigh⟩ := hnat
  have hlow' : (2 * num : ℚ) ≤ 2 * (roundDiv num den * den) + den := by exact_mod_cast hlow
  have hhigh' : (2 * (roundDiv num den * den) : ℚ) ≤ 2 * num + den := by exact_mod_cast hhigh
  unfold quotient
  constructor
  · rw [sub_le_iff_le_add, div_le_iff₀ hpos]
    linarith
  · rw [← sub_le_iff_le_add, le_div_iff₀ hpos]
    linarith

/-- A property of the first hit of a search, or of what stands in for it, is shown for the first
element and for the rest. -/
theorem getD_find?_cons {α : Type} {P : α → Prop} {test : α → Bool} {a last : α} {as : List α}
    (ha : P a) (has : test a = false → P ((as.find? test).getD last)) :
    P (((a :: as).find? test).getD last) := by
  rw [List.find?_cons]
  cases h : test a with
  | true => exact ha
  | false => exact has h

namespace Double

variable {x : Double}

/-! ## The rounding interval -/

/-- A number whose exponent is two less is a quarter of the one with its mantissa. -/
theorem quotient_quarter (m : Nat) (e : Int) :
    quotient (Double.mk false m (e - 2)).ratio = m / 4 * 2 ^ e := by
  rw [quotient_ratio, size, zpow_sub₀ two_ne_zero]
  ring

/-- A decimal reads back as a double if it lies in its rounding interval. -/
theorem readsBack_iff (hm : x.mantissa ≠ 0) {d : Decimal} :
    x.readsBack d = true ↔ x.Rounds d.value := by
  have hlow : quotient x.roundingInterval.1 = (x.mantissa - x.reach) * 2 ^ x.exponent := by
    have hsub (k : Nat) (hk : k ≤ 4) : ((4 * x.mantissa - k : ℕ) : ℚ) = 4 * x.mantissa - k := by
      rw [Nat.cast_sub (by omega), Nat.cast_mul, Nat.cast_ofNat]
    -- below a power of two the next double is half as far away
    have hcase : (x.mantissa == pow2 52 && decide (-1074 < x.exponent)) = true ↔
        x.mantissa = 2 ^ 52 ∧ -1074 < x.exponent := by
      rw [Bool.and_eq_true, beq_iff_eq, decide_eq_true_eq, pow2_eq]
    unfold roundingInterval reach
    rw [quotient_quarter]
    congr 1
    by_cases h : x.mantissa = 2 ^ 52 ∧ -1074 < x.exponent
    · rw [if_pos (hcase.2 h), if_pos h, hsub 1 (by decide)]
      push_cast
      ring
    · rw [if_neg fun hc => h (hcase.1 hc), if_neg h, hsub 2 (by decide)]
      push_cast
      ring
  have hhigh : quotient x.roundingInterval.2 = (x.mantissa + 1 / 2) * 2 ^ x.exponent := by
    unfold roundingInterval
    rw [quotient_quarter]
    push_cast
    ring
  have hpos : 0 < x.roundingInterval.1.2 ∧ 0 < x.roundingInterval.2.2 :=
    ⟨ratio_pos _, ratio_pos _⟩
  -- the ends of the interval count if the mantissa is even
  show (ratioBelow (x.mantissa % 2 == 0) x.roundingInterval.1 d.ratio &&
    ratioBelow (x.mantissa % 2 == 0) d.ratio x.roundingInterval.2) = true ↔ _
  rw [Bool.and_eq_true, ratioBelow_iff hpos.1 d.ratio_pos, ratioBelow_iff d.ratio_pos hpos.2, hlow,
    hhigh, d.quotient_ratio, Rounds]
  by_cases heven : x.mantissa % 2 = 0
  · rw [if_pos heven, if_pos (by simpa using heven), if_pos (by simpa using heven)]
  · rw [if_neg heven, if_neg (by simpa using heven), if_neg (by simpa using heven)]

/-! ## Digits -/

/-- The numerator and the denominator of a number differ by fewer than 1100 binary places. -/
theorem log2_ratio (hx : x.Normal) (hm : x.mantissa ≠ 0) :
    -1100 < (x.ratio.1.log2 : Int) - x.ratio.2.log2 ∧
      (x.ratio.1.log2 : Int) - x.ratio.2.log2 < 1100 := by
  have hge := hx.exponent_ge
  have hle := hx.exponent_le
  unfold ratio
  split_ifs with h
  -- for exponents that are not negative the denominator is one, for others the numerator is the
  -- mantissa
  · have hlt : x.mantissa * pow2 x.exponent.toNat < 2 ^ (53 + x.exponent.toNat) := by
      rw [pow_add]
      exact Nat.mul_lt_mul_of_pos_right hx.mantissa_lt (pow2_pos _)
    have hne : x.mantissa * pow2 x.exponent.toNat ≠ 0 := Nat.mul_ne_zero hm (pow2_pos _).ne'
    have hlog := (Nat.log2_lt hne).2 hlt
    have hone : Nat.log2 1 = 0 := rfl
    show -1100 < ((x.mantissa * pow2 x.exponent.toNat).log2 : Int) - Nat.log2 1 ∧
      ((x.mantissa * pow2 x.exponent.toNat).log2 : Int) - Nat.log2 1 < 1100
    rw [hone]
    omega
  · have hlog := (Nat.log2_lt hm).2 hx.mantissa_lt
    have hpow : (pow2 (-x.exponent).toNat).log2 = (-x.exponent).toNat := Nat.log2_two_pow
    show -1100 < (x.mantissa.log2 : Int) - (pow2 (-x.exponent).toNat).log2 ∧
      (x.mantissa.log2 : Int) - (pow2 (-x.exponent).toNat).log2 < 1100
    rw [hpow]
    omega

theorem size_pos (hm : x.mantissa ≠ 0) : 0 < x.size :=
  mul_pos (Nat.cast_pos.2 (Nat.pos_of_ne_zero hm)) (by positivity)

/-- The comparison of fractions says whether a number is below a power of ten. -/
theorem ratioBelow_pow10_iff {p : Int} :
    ratioBelow false x.ratio (Decimal.mk 1 p).ratio = true ↔ x.size < 10 ^ p := by
  rw [ratioBelow_iff x.ratio_pos (Decimal.ratio_pos _), if_neg (by decide), quotient_ratio,
    Decimal.quotient_ratio, Decimal.value, Nat.cast_one, one_mul]

/-- A double is not below the power of ten of its first digit. -/
theorem pow10_le_size (hx : x.Normal) (hm : x.mantissa ≠ 0) :
    10 ^ (x.pointPosition - 1) ≤ x.size := by
  have hnum : x.ratio.1 ≠ 0 := by
    intro h
    have hzero : x.size = 0 := by rw [← quotient_ratio, quotient, h, Nat.cast_zero, zero_div]
    exact (size_pos hm).ne' hzero
  obtain ⟨hlow, hhigh⟩ := log2_ratio hx hm
  have hlog := (quotient_log2 hnum x.ratio_pos.ne').1
  rw [Prod.mk.eta, quotient_ratio] at hlog
  unfold pointPosition
  set guess : Int := (((x.ratio.1.log2 : Int) - (x.ratio.2.log2 : Int)) * 1233).fdiv 4096
  have hguess : (10 : ℚ) ^ (guess - 1 - 1) ≤ x.size := by
    rw [sub_sub]
    exact (guess_le hlow hhigh).trans hlog.le
  set below : Int → Bool := fun p => ratioBelow false x.ratio (Decimal.mk 1 p).ratio with hbelow
  -- a place that was passed over was too far to the left
  have hstep {p q : Int} (h : below p = false) (hq : q - 1 = p) : (10 : ℚ) ^ (q - 1) ≤ x.size := by
    rwa [hbelow, ← Bool.not_eq_true, ratioBelow_pow10_iff, not_lt, ← hq] at h
  show (10 : ℚ) ^ (([guess + -1, guess + 0, guess + 1, guess + 2].find? below).getD (guess + 3) - 1)
    ≤ x.size
  have hcons := @getD_find?_cons Int (fun p => (10 : ℚ) ^ (p - 1) ≤ x.size) below
  exact hcons hguess fun h => hcons (hstep h (by omega)) fun h => hcons (hstep h (by omega)) fun h =>
    hcons (hstep h (by omega)) fun h => hstep (q := guess + 3) h (by omega)

/-- In a place of seventeen digits, half a unit is less than a double reaches. -/
theorem unit_lt (hx : x.Normal) (hm : x.mantissa ≠ 0) :
    (10 : ℚ) ^ (x.pointPosition - (17 : ℕ)) / 2 < x.reach * 2 ^ x.exponent := by
  have hpow : (0 : ℚ) < 2 ^ x.exponent := by positivity
  have hfirst := pow10_le_size hx hm
  -- seventeen digits are sixteen behind the first one
  have hunit : (10 : ℚ) ^ (x.pointPosition - (17 : ℕ)) =
      10 ^ (x.pointPosition - 1) / 10 ^ 16 := by
    have hsub : x.pointPosition - (17 : ℕ) = x.pointPosition - 1 - 16 := by omega
    rw [hsub, zpow_sub₀ (by norm_num)]
    norm_cast
  have hmantissa : ((x.mantissa + 1 : ℕ) : ℚ) ≤ ((2 ^ 53 : ℕ) : ℚ) := Nat.cast_le.2 hx.mantissa_lt
  rw [Nat.cast_add, Nat.cast_one, Nat.cast_pow, Nat.cast_ofNat] at hmantissa
  rw [hunit]
  unfold size at hfirst
  unfold reach
  split_ifs with h
  · rw [h.1, Nat.cast_pow, Nat.cast_ofNat] at hfirst
    norm_num at hfirst ⊢
    linarith
  · have hle : (x.mantissa : ℚ) * 2 ^ x.exponent ≤ 2 ^ 53 * 2 ^ x.exponent :=
      mul_le_mul_of_nonneg_right (by linarith) hpow.le
    norm_num at hfirst hle ⊢
    linarith

/-- What is nearer to a number than half the way to its neighbours rounds to it. -/
theorem rounds_of_near {q : ℚ}
    (hlow : x.size - x.reach * 2 ^ x.exponent < q) (hhigh : q < x.size + x.reach * 2 ^ x.exponent) :
    x.Rounds q := by
  have hpow : (0 : ℚ) < 2 ^ x.exponent := by positivity
  have hreach := mul_le_mul_of_nonneg_right x.reach_le hpow.le
  unfold size at hlow hhigh
  have hlow' : (x.mantissa - x.reach) * 2 ^ x.exponent < q := by
    rw [sub_mul]
    exact hlow
  have hhigh' : q < (x.mantissa + 1 / 2) * 2 ^ x.exponent := by
    rw [add_mul]
    linarith
  unfold Rounds
  split_ifs
  · exact ⟨hlow'.le, hhigh'.le⟩
  · exact ⟨hlow', hhigh'⟩

/-- A quotient in units of a power of ten. -/
def placed (q : Nat × Nat) (power : Int) : Nat × Nat :=
  if 0 ≤ power then (q.1, q.2 * pow10 power.toNat) else (q.1 * pow10 (-power).toNat, q.2)

theorem placed_pos {q : Nat × Nat} (hq : 0 < q.2) (power : Int) : 0 < (placed q power).2 := by
  unfold placed
  split
  · exact Nat.mul_pos hq (pow10_pos _)
  · exact hq

/-- Placing a fraction moves its decimal point. -/
theorem quotient_placed (q : Nat × Nat) (power : Int) :
    quotient (placed q power) = quotient q / 10 ^ power := by
  unfold placed quotient
  split_ifs with h
  · rw [Nat.cast_mul, cast_pow10, zpow_toNat h, div_div]
  · rw [Nat.cast_mul, cast_pow10, zpow_neg_toNat h, div_inv_eq_mul, mul_div_right_comm]

/-- Digits at a place; if there is one too many, they are the next power of ten. -/
def digitsAt (point : Int) (k c : Nat) : Decimal :=
  if c == pow10 k then ⟨1, point⟩ else ⟨c, point - k⟩

theorem value_digitsAt (point : Int) (k c : Nat) :
    (digitsAt point k c).value = c * 10 ^ (point - k) := by
  unfold digitsAt Decimal.value
  split_ifs with h
  · rw [beq_iff_eq.1 h, cast_pow10, Nat.cast_one, one_mul, zpow_sub₀ (by norm_num), zpow_natCast]
    field_simp
  · rfl

/-- For each length two decimals are tried: the rounded one and one beside it. -/
theorem decimalOfLength_eq (x : Double) (point : Int) (k : Nat) : ∃ other,
    x.decimalOfLength point k =
      [digitsAt point k (Numeric.roundDiv (placed x.ratio (point - k)).1
        (placed x.ratio (point - k)).2), digitsAt point k other].find? x.readsBack := by
  unfold decimalOfLength placed
  generalize x.ratio = q
  obtain ⟨n, d⟩ := q
  by_cases h : 0 ≤ point - k
  · simp only [if_pos h]
    exact ⟨_, rfl⟩
  · simp only [if_neg h]
    exact ⟨_, rfl⟩

/-- A decimal of some length is taken only if it is read back. -/
theorem readsBack_of_decimalOfLength {point : Int} {k : Nat} {d : Decimal}
    (h : x.decimalOfLength point k = some d) : x.readsBack d = true := by
  obtain ⟨other, heq⟩ := decimalOfLength_eq x point k
  rw [heq] at h
  exact List.find?_some h

/-- Seventeen digits are enough. -/
theorem exists_decimalOfLength (hx : x.Normal) (hm : x.mantissa ≠ 0) :
    ∃ d, x.decimalOfLength x.pointPosition 17 = some d := by
  obtain ⟨other, heq⟩ := decimalOfLength_eq x x.pointPosition 17
  set q := placed x.ratio (x.pointPosition - (17 : ℕ)) with hq
  have hunit : (0 : ℚ) < 10 ^ (x.pointPosition - (17 : ℕ)) := by positivity
  have hlt := unit_lt hx hm
  have hquotient : quotient (q.1, q.2) = x.size / 10 ^ (x.pointPosition - (17 : ℕ)) := by
    rw [Prod.mk.eta, hq, quotient_placed, quotient_ratio]
  obtain ⟨hlow, hhigh⟩ := @roundDiv_near q.1 q.2 (placed_pos x.ratio_pos _)
  rw [hquotient] at hlow hhigh
  have hreads : x.readsBack (digitsAt x.pointPosition 17 (Numeric.roundDiv q.1 q.2)) = true := by
    rw [readsBack_iff hm, value_digitsAt]
    rw [div_sub' hunit.ne', div_le_iff₀ hunit] at hlow
    rw [div_add' _ _ _ hunit.ne', le_div_iff₀ hunit] at hhigh
    generalize (10 : ℚ) ^ (x.pointPosition - (17 : ℕ)) = unit at *
    apply rounds_of_near
    · linarith
    · linarith
  exact ⟨_, heq.trans (List.find?_cons_of_pos hreads)⟩

/-- The shortest decimal of a double reads back. -/
theorem rounds_shortest (hx : x.Normal) (hm : x.mantissa ≠ 0) : x.Rounds x.shortest.value := by
  obtain ⟨d, hd⟩ := exists_decimalOfLength hx hm
  have hshortest : x.shortest = ((List.range 17).findSome? fun k =>
      x.decimalOfLength x.pointPosition (k + 1)).getD ⟨0, 0⟩ := if_neg (by simpa using hm)
  rw [← readsBack_iff hm, hshortest]
  cases h : (List.range 17).findSome? fun k => x.decimalOfLength x.pointPosition (k + 1) with
  | none =>
    have hlast := List.findSome?_eq_none_iff.1 h 16 (by decide)
    rw [hd] at hlast
    exact nomatch hlast
  | some found =>
    obtain ⟨k, -, hk⟩ := List.exists_of_findSome?_eq_some h
    exact readsBack_of_decimalOfLength hk

/-! ## Reading decimals -/

/-- Nothing that rounds to a number other than zero is smaller than half the smallest one. -/
theorem Rounds.low (hx : x.Normal) (hm : x.mantissa ≠ 0) {q : ℚ} (h : x.Rounds q) :
    2 ^ (-1075 : ℤ) ≤ q := by
  have hm1 : (1 : ℚ) ≤ x.mantissa := by exact_mod_cast Nat.one_le_iff_ne_zero.2 hm
  have hreach := x.reach_le
  have hpow : (2 : ℚ) ^ (-1074 : ℤ) ≤ 2 ^ x.exponent := zpow_le_zpow_right₀ one_le_two hx.exponent_ge
  have hhalf : (2 : ℚ) ^ (-1075 : ℤ) = 1 / 2 * 2 ^ (-1074 : ℤ) := by
    rw [one_div, ← zpow_neg_one, ← zpow_add₀ two_ne_zero]
    rfl
  calc (2 : ℚ) ^ (-1075 : ℤ) = 1 / 2 * 2 ^ (-1074 : ℤ) := hhalf
    _ ≤ (x.mantissa - x.reach) * 2 ^ x.exponent :=
      mul_le_mul (by linarith) hpow (by positivity) (by linarith)
    _ ≤ q := h.le.1

/-- Nothing that rounds to a finite number reaches the first power of two beyond them. -/
theorem Rounds.high (hx : x.Normal) {q : ℚ} (h : x.Rounds q) : q < 2 ^ (1024 : ℤ) :=
  (h.lt hx).trans_le (zpow_le_zpow_right₀ one_le_two (by linarith [hx.exponent_le]))

/-- What is too small or too large to be computed is not near a double. -/
theorem Rounds.power_bounds (hx : x.Normal) (hm : x.mantissa ≠ 0) {digits : Nat} {power : Int}
    (hdigits : digits ≠ 0) (h : x.Rounds (digits * 10 ^ power)) :
    -1100 ≤ (digits.log2 : Int) + 1 + 3 * power ∧ power ≤ 310 := by
  constructor
  · by_contra hsmall
    have hneg : power ≤ 0 := by omega
    have hdigit : (digits : ℚ) < 2 ^ ((digits.log2 : Int) + 1) := by
      exact_mod_cast Nat.lt_log2_self
    have hten : (10 : ℚ) ^ power ≤ 2 ^ (3 * power) := by
      obtain ⟨n, rfl⟩ := Int.exists_eq_neg_ofNat hneg
      rw [zpow_mul, zpow_neg, zpow_neg, zpow_natCast, zpow_natCast]
      exact inv_anti₀ (by positivity) (pow_le_pow_left₀ (by positivity) (by norm_num) n)
    -- so small a number would round to zero
    have hbelow : (digits : ℚ) * 10 ^ power < 2 ^ (-1075 : ℤ) := by
      calc (digits : ℚ) * 10 ^ power < 2 ^ ((digits.log2 : Int) + 1) * 2 ^ (3 * power) :=
            mul_lt_mul hdigit hten (by positivity) (by positivity)
        _ = 2 ^ ((digits.log2 : Int) + 1 + 3 * power) := (zpow_add₀ two_ne_zero _ _).symm
        _ ≤ 2 ^ (-1075 : ℤ) := zpow_le_zpow_right₀ one_le_two (by omega)
    exact absurd (h.low hx hm) (not_le.2 hbelow)
  · by_contra hlarge
    have hdigit : (1 : ℚ) ≤ digits := by exact_mod_cast Nat.one_le_iff_ne_zero.2 hdigits
    have hten : (10 : ℚ) ^ (311 : ℤ) ≤ 10 ^ power := zpow_le_zpow_right₀ (by norm_num) (by omega)
    have hsize : (2 : ℚ) ^ (1024 : ℤ) ≤ 10 ^ (311 : ℤ) := by
      have hnat : pow2 1024 ≤ pow10 311 := by decide +kernel
      have hcast : (pow2 1024 : ℚ) ≤ pow10 311 := Nat.cast_le.2 hnat
      rwa [cast_pow2, cast_pow10] at hcast
    -- so large a number would round to no finite one
    have habove : (2 : ℚ) ^ (1024 : ℤ) ≤ digits * 10 ^ power :=
      calc (2 : ℚ) ^ (1024 : ℤ) ≤ 1 * 10 ^ power := by
            rw [one_mul]
            exact hsize.trans hten
        _ ≤ digits * 10 ^ power := mul_le_mul_of_nonneg_right hdigit (by positivity)
    exact absurd (h.high hx) (not_lt.2 habove)

/-- A decimal in the rounding interval of a double is read as that double. -/
theorem ofDecimal_of_rounds (hx : x.Normal) (hm : x.mantissa ≠ 0) {digits : Nat} {power : Int}
    (h : x.Rounds (digits * 10 ^ power)) (negative : Bool) :
    ofDecimal negative digits power = some { x with negative } := by
  have hdigits : digits ≠ 0 := by
    rintro rfl
    simpa using h.pos hm
  obtain ⟨hlow, hhigh⟩ := h.power_bounds hx hm hdigits
  have hratio := Decimal.quotient_ratio ⟨digits, power⟩
  have hguard : (digits == 0 || decide ((digits.log2 : Int) + 1 + 3 * power < -1100)) = false := by
    rw [Bool.or_eq_false_iff, beq_eq_false_iff_ne, decide_eq_false_iff_not, not_lt]
    exact ⟨hdigits, hlow⟩
  unfold ofDecimal
  rw [hguard, if_neg Bool.false_ne_true, if_neg (not_lt.2 hhigh)]
  unfold Decimal.ratio at hratio
  split_ifs at hratio ⊢ with hpower
  · exact ofRatio_of_rounds hx hm Nat.one_pos (hratio ▸ h) negative
  · exact ofRatio_of_rounds hx hm (pow10_pos _) (hratio ▸ h) negative

/-- Zero in its normal form. -/
theorem Normal.eq_zero (hx : x.Normal) (hm : x.mantissa = 0) : x = zero x.negative := by
  have hexponent : x.exponent = -1074 := hx.full.resolve_left (by rw [hm]; decide)
  obtain ⟨negative, mantissa, exponent⟩ := x
  cases hm
  cases hexponent
  rfl

end Double

end DatasetSql.Numeric
