import DatasetSql.Proofs.Decimals

/-!
# Rounding keeps the order

A larger quotient is never rounded to a smaller double. So integers that are in order as doubles are
in that order themselves; but integers that differ may be one and the same double.
-/

namespace DatasetSql.Numeric

/-! ## Rounding to an integer -/

theorem roundDiv_one (n : Nat) : roundDiv n 1 = n := by
  simp [roundDiv, Nat.mod_one]

/-- A quotient is rounded alike in whatever terms it is written. -/
theorem roundDiv_scale {num den c : Nat} (hc : 0 < c) :
    roundDiv (num * c) (den * c) = roundDiv num den := by
  have hlow : 2 * (num % den * c) < den * c ↔ 2 * (num % den) < den := by
    rw [← Nat.mul_assoc]
    exact Nat.mul_lt_mul_right hc
  have hhigh : den * c < 2 * (num % den * c) ↔ den < 2 * (num % den) := by
    rw [← Nat.mul_assoc]
    exact Nat.mul_lt_mul_right hc
  unfold roundDiv
  rw [Nat.mul_div_mul_right _ _ hc, Nat.mul_mod_mul_right]
  simp only [hlow, hhigh]

/-- A larger quotient is not rounded to a smaller integer. -/
theorem roundDiv_mono {num den num' den' : Nat} (hden : 0 < den) (hden' : 0 < den')
    (h : quotient (num, den) ≤ quotient (num', den')) : roundDiv num den ≤ roundDiv num' den' := by
  by_contra hlt
  have hnear := (@roundDiv_near num den hden).2
  have hnear' := (@roundDiv_near num' den' hden').1
  have hstep : (roundDiv num' den' : ℚ) + 1 ≤ roundDiv num den := by exact_mod_cast not_le.1 hlt
  -- both lie halfway between the two integers, so they are one quotient, which is rounded one way
  have hsame : quotient (num, den) = quotient (num', den') := by linarith
  have hcross : num * den' = num' * den := by
    unfold quotient at hsame
    rw [div_eq_div_iff (by positivity) (by positivity)] at hsame
    exact_mod_cast hsame
  have hround : roundDiv num den = roundDiv num' den' := by
    calc roundDiv num den = roundDiv (num * den') (den * den') := (roundDiv_scale hden').symm
      _ = roundDiv (num' * den) (den' * den) := by rw [hcross, Nat.mul_comm den den']
      _ = roundDiv num' den' := roundDiv_scale hden
  exact hlt hround.le

/-- A quotient in units of a power of two, rounded to an integer. -/
def roundedIn (e : Int) (num den : Nat) : Nat := roundDiv (scaled num den e).1 (scaled num den e).2

section

variable {num den num' den' n : Nat} {e : Int} (hden : 0 < den)

include hden

/-- Rounding in one unit keeps the order. -/
theorem roundedIn_mono (hden' : 0 < den') (h : quotient (num, den) ≤ quotient (num', den')) :
    roundedIn e num den ≤ roundedIn e num' den' := by
  apply roundDiv_mono (scaled_pos hden e) (scaled_pos hden' e)
  rw [Prod.mk.eta, Prod.mk.eta, quotient_scaled, quotient_scaled]
  gcongr

/-- What is at most some units is rounded to at most as many. -/
theorem roundedIn_le (h : quotient (num, den) ≤ n * 2 ^ e) : roundedIn e num den ≤ n := by
  rw [← roundDiv_one n]
  apply roundDiv_mono (scaled_pos hden e) Nat.one_pos
  rw [Prod.mk.eta, quotient_scaled, div_le_iff₀ (by positivity)]
  simpa [quotient] using h

theorem le_roundedIn (h : n * 2 ^ e ≤ quotient (num, den)) : n ≤ roundedIn e num den := by
  rw [← roundDiv_one n]
  apply roundDiv_mono Nat.one_pos (scaled_pos hden e)
  rw [Prod.mk.eta, quotient_scaled, le_div_iff₀ (by positivity)]
  simpa [quotient] using h

end

/-! ## Rounding to a mantissa -/

/-- The number that a quotient is rounded to, in units of its binary exponent. -/
def rounded (num den : Nat) : ℚ :=
  roundedIn (binaryExponent num den) num den * 2 ^ binaryExponent num den

section

variable {num den : Nat} (hnum : num ≠ 0) (hden : den ≠ 0)

include hnum hden

/-- A quotient lies between the powers of two of a mantissa, unless its exponent is the least one. -/
theorem binaryExponent_bounds : -1074 ≤ binaryExponent num den ∧
    quotient (num, den) < 2 ^ (binaryExponent num den + 53) ∧
    (-1074 < binaryExponent num den → 2 ^ (binaryExponent num den + 52) ≤ quotient (num, den)) := by
  obtain ⟨e, he, hlow, hhigh⟩ := exists_binaryExponent hnum hden
  rw [he]
  refine ⟨le_max_right _ _, ?_, ?_⟩
  · have hle : e + 53 ≤ max e (-1074) + 53 := by omega
    exact hhigh.trans_le (zpow_le_zpow_right₀ one_le_two hle)
  · intro hlarge
    have hmax : max e (-1074) = e := by omega
    rwa [hmax]

/-- Rounding does not pass the power of two above. -/
theorem rounded_le : rounded num den ≤ 2 ^ (binaryExponent num den + 53) := by
  have hhigh := (binaryExponent_bounds hnum hden).2.1
  have hsplit : (2 : ℚ) ^ (binaryExponent num den + 53) =
      (2 ^ 53 : ℕ) * 2 ^ binaryExponent num den := by
    rw [Nat.cast_pow]
    exact two_zpow_add _ 53
  rw [hsplit] at hhigh ⊢
  have hle := roundedIn_le (Nat.pos_of_ne_zero hden) hhigh.le
  unfold rounded
  gcongr

/-- Rounding does not pass the power of two below. -/
theorem le_rounded (h : -1074 < binaryExponent num den) :
    2 ^ (binaryExponent num den + 52) ≤ rounded num den := by
  have hlow := (binaryExponent_bounds hnum hden).2.2 h
  have hsplit : (2 : ℚ) ^ (binaryExponent num den + 52) =
      (2 ^ 52 : ℕ) * 2 ^ binaryExponent num den := by
    rw [Nat.cast_pow]
    exact two_zpow_add _ 52
  rw [hsplit] at hlow ⊢
  have hle := le_roundedIn (Nat.pos_of_ne_zero hden) hlow
  unfold rounded
  gcongr

end

/-- A larger quotient is not rounded to a smaller number. -/
theorem rounded_mono {num den num' den' : Nat} (hnum : num ≠ 0) (hden : den ≠ 0) (hnum' : num' ≠ 0)
    (hden' : den' ≠ 0) (h : quotient (num, den) ≤ quotient (num', den')) :
    rounded num den ≤ rounded num' den' := by
  obtain ⟨hleast, hhigh, hlow⟩ := binaryExponent_bounds hnum hden
  obtain ⟨hleast', hhigh', hlow'⟩ := binaryExponent_bounds hnum' hden'
  rcases lt_trichotomy (binaryExponent num den) (binaryExponent num' den') with hlt | heq | hgt
  · -- a power of two lies between the two
    calc rounded num den ≤ 2 ^ (binaryExponent num den + 53) := rounded_le hnum hden
      _ ≤ 2 ^ (binaryExponent num' den' + 52) := zpow_le_zpow_right₀ one_le_two (by omega)
      _ ≤ rounded num' den' := le_rounded hnum' hden' (by omega)
  · -- both are counted in the same units
    have hle : roundedIn (binaryExponent num' den') num den ≤
        roundedIn (binaryExponent num' den') num' den' :=
      roundedIn_mono (Nat.pos_of_ne_zero hden) (Nat.pos_of_ne_zero hden') h
    unfold rounded
    rw [heq]
    gcongr
  · -- the larger quotient would lie below a power of two that the smaller one reaches
    exfalso
    have hpower : (2 : ℚ) ^ (binaryExponent num' den' + 53) ≤ 2 ^ (binaryExponent num den + 52) :=
      zpow_le_zpow_right₀ one_le_two (by omega)
    have hreach := hlow (by omega)
    linarith

theorem rounded_nonneg (num den : Nat) : 0 ≤ rounded num den := by
  unfold rounded
  positivity

theorem rounded_zero : rounded 0 1 = 0 := by
  have hle : roundedIn (binaryExponent 0 1) 0 1 ≤ 0 := by
    apply roundedIn_le Nat.one_pos
    simp [quotient]
  unfold rounded
  rw [Nat.le_zero.1 hle, Nat.cast_zero, zero_mul]

/-- Rounding whole numbers keeps their order. -/
theorem rounded_le_rounded {m n : Nat} (h : m ≤ n) : rounded m 1 ≤ rounded n 1 := by
  by_cases hm : m = 0
  · rw [hm, rounded_zero]
    exact rounded_nonneg n 1
  · refine rounded_mono hm one_ne_zero (by omega) one_ne_zero ?_
    simpa [quotient] using h

namespace Double

/-! ## The number that a double is -/

/-- The number that a double stands for. -/
def value (x : Double) : ℚ := if x.negative then -x.size else x.size

/-- The numerator of a double counts the smallest units. -/
theorem cast_numerator {x : Double} (h : -1074 ≤ x.exponent) :
    (x.numerator : ℚ) = x.value * pow2 1074 := by
  have hpow : (pow2 (x.exponent + 1074).toNat : ℚ) = 2 ^ x.exponent * pow2 1074 := by
    rw [cast_pow2, cast_pow2, ← zpow_toNat (by omega), mul_comm]
    exact two_zpow_add x.exponent 1074
  have hsigned : (x.signedMantissa : ℚ) * 2 ^ x.exponent = x.value := by
    unfold signedMantissa value size
    split_ifs
    · push_cast
      ring
    · rfl
  rw [numerator, Int.cast_mul, Int.cast_natCast, hpow, ← mul_assoc, hsigned]

/-- Doubles are compared as the numbers that they stand for. -/
theorem lt_iff {x y : Double} (hx : -1074 ≤ x.exponent) (hy : -1074 ≤ y.exponent) :
    x.lt y = true ↔ x.value < y.value := by
  have hpos : (0 : ℚ) < pow2 1074 := Nat.cast_pos.2 (pow2_pos 1074)
  rw [lt, decide_eq_true_iff, ← Int.cast_lt (R := ℚ), cast_numerator hx, cast_numerator hy]
  exact mul_lt_mul_iff_left₀ hpos

/-- Doubles are the same exactly if their values are equal; the two zeros are. -/
theorem same_iff {x y : Double} (hx : -1074 ≤ x.exponent) (hy : -1074 ≤ y.exponent) :
    x.same y = true ↔ x.value = y.value := by
  have hne : (pow2 1074 : ℚ) ≠ 0 := Nat.cast_ne_zero.2 (pow2_pos 1074).ne'
  rw [same, beq_iff_eq, ← @Int.cast_inj ℚ, cast_numerator hx, cast_numerator hy]
  exact mul_left_inj' hne

/-- Carrying into the next exponent does not change the number. -/
theorem eq_of_carried {negative : Bool} {m : Nat} {e : Int} {x : Double}
    (h : carried negative m e = some x) :
    x.negative = negative ∧ x.size = m * 2 ^ e ∧ e ≤ x.exponent := by
  unfold carried at h
  -- a full mantissa is carried into the exponent, the size stays
  by_cases hm : m = pow2 53
  · rw [if_pos (by simpa using hm)] at h
    dsimp only at h
    split_ifs at h
    cases h
    refine ⟨rfl, ?_, Int.le_add_one le_rfl⟩
    have hnext : (2 : ℚ) ^ (e + 1) = 2 ^ 1 * 2 ^ e := two_zpow_add e 1
    unfold size
    dsimp only
    rw [hm, cast_pow2, cast_pow2, hnext]
    ring
  · rw [if_neg (by simpa using hm)] at h
    dsimp only at h
    split_ifs at h
    cases h
    exact ⟨rfl, rfl, le_rfl⟩

/-- A mantissa far below the largest exponent is carried. -/
theorem exists_carried (negative : Bool) (m : Nat) {e : Int} (he : e < 971) :
    ∃ x, carried negative m e = some x := by
  by_cases hm : m = pow2 53
  · rw [hm]
    exact ⟨_, carried_pow2 (by omega)⟩
  · exact ⟨_, carried_of_ne hm he.le⟩

end Double

/-! ## Integers as doubles -/

theorem pow2_lt {m n : Nat} (h : m < n) : pow2 m < pow2 n := Nat.pow_lt_pow_right one_lt_two h

/-- An integer that a signed word of 64 bits holds. -/
def SignedWord (i : Int) : Prop := -(signedBound : Int) ≤ i ∧ i < signedBound

/-- A signed word is far below the largest double. -/
theorem SignedWord.natAbs_lt {i : Int} (h : SignedWord i) : i.natAbs < pow2 1023 := by
  have hbound : pow2 63 < pow2 1023 := pow2_lt (by decide)
  have hword : signedBound = pow2 63 := rfl
  obtain ⟨hlow, hhigh⟩ := h
  omega

namespace Double

/-- An integer as a double is its magnitude rounded, with its sign. -/
theorem ofInt_spec {i : Int} (hi : SignedWord i) :
    (ofInt i).value = (if i < 0 then -rounded i.natAbs 1 else rounded i.natAbs 1) ∧
      -1074 ≤ (ofInt i).exponent := by
  by_cases hzero : i = 0
  · rw [hzero]
    refine ⟨?_, le_rfl⟩
    have hvalue : (ofInt 0).value = 0 := by simp [ofInt, ofRatio, zero, value, size]
    rw [hvalue, if_neg (lt_irrefl 0), Int.natAbs_zero, rounded_zero]
  · have hnum : i.natAbs ≠ 0 := Int.natAbs_ne_zero.2 hzero
    obtain ⟨hleast, -, hlow⟩ := binaryExponent_bounds hnum one_ne_zero
    -- a machine integer is far below the largest double
    have hexponent : binaryExponent i.natAbs 1 < 971 := by
      by_contra hge
      have hsize : quotient (i.natAbs, 1) < 2 ^ (1023 : ℤ) := by
        rw [quotient, Nat.cast_one, div_one]
        exact (Nat.cast_lt.2 hi.natAbs_lt).trans_eq (cast_pow2 1023)
      have hpower : (2 : ℚ) ^ (1023 : ℤ) ≤ 2 ^ (binaryExponent i.natAbs 1 + 52) :=
        zpow_le_zpow_right₀ one_le_two (by omega)
      have hreach := hlow (by omega)
      linarith
    obtain ⟨x, hx⟩ := exists_carried (decide (i < 0))
      (roundedIn (binaryExponent i.natAbs 1) i.natAbs 1) hexponent
    have hratio : ofRatio (decide (i < 0)) i.natAbs 1 = some x := by
      rw [ofRatio_eq_carried _ hnum rfl]
      exact hx
    obtain ⟨hnegative, hsize, hbound⟩ := eq_of_carried hx
    have hof : ofInt i = x := by rw [ofInt, hratio, Option.getD_some]
    rw [hof, value, hnegative, hsize]
    refine ⟨?_, hleast.trans hbound⟩
    simp only [decide_eq_true_eq]
    rfl

/-- Integers in order are not rounded to doubles in another order. -/
theorem ofInt_mono {i j : Int} (hi : SignedWord i) (hj : SignedWord j) (h : i ≤ j) :
    (ofInt i).value ≤ (ofInt j).value := by
  rw [(ofInt_spec hi).1, (ofInt_spec hj).1]
  have hnonneg := rounded_nonneg i.natAbs 1
  have hnonneg' := rounded_nonneg j.natAbs 1
  by_cases hneg : j < 0
  · -- of two negative integers, the smaller one is further from zero
    have hle := @rounded_le_rounded j.natAbs i.natAbs (by omega)
    rw [if_pos (by omega), if_pos hneg]
    linarith
  · by_cases hneg' : i < 0
    · rw [if_pos hneg', if_neg hneg]
      linarith
    · rw [if_neg hneg', if_neg hneg]
      exact rounded_le_rounded (by omega)

/-- Integers that are in order as doubles are in order. -/
theorem lt_of_ofInt_lt {i j : Int} (hi : SignedWord i) (hj : SignedWord j)
    (h : (ofInt i).lt (ofInt j) = true) : i < j := by
  rw [lt_iff (ofInt_spec hi).2 (ofInt_spec hj).2] at h
  by_contra hge
  exact absurd (ofInt_mono hj hi (not_lt.1 hge)) (not_le.2 h)

/-- Integers that are out of order, but not as doubles, are one double. -/
theorem same_of_not_ofInt_lt {i j : Int} (hi : SignedWord i) (hj : SignedWord j)
    (hlt : i < j) (h : (ofInt i).lt (ofInt j) = false) : (ofInt i).same (ofInt j) = true := by
  rw [← Bool.not_eq_true, lt_iff (ofInt_spec hi).2 (ofInt_spec hj).2, not_lt] at h
  rw [same_iff (ofInt_spec hi).2 (ofInt_spec hj).2]
  exact le_antisymm (ofInt_mono hi hj hlt.le) h

end Double

end DatasetSql.Numeric
