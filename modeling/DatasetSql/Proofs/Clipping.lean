import DatasetSql.Proofs.ExactNumbers
import DatasetSql.Proofs.NumberChecks
import DatasetSql.Proofs.Persistence

/-!
# Clipping

A clipping takes the greater of a number and the lower bound, then the smaller of that and the upper
bound. So nothing exceeds the upper bound, what lies within the bounds stays, and clipping again
changes nothing. The lower bound is kept exactly if it does not exceed the upper one; the check of
this compares doubles, and bounds that are one double pass it in either order.
-/

namespace DatasetSql

open Emit Numeric

namespace Rule

section

variable {N : Type} [LinearOrder N]

/-- A number that is first raised to the lower bound and then lowered to the upper one. -/
def clamped (lower upper : Option N) (x : N) : N :=
  let raised := lower.elim x (max x)
  upper.elim raised (min raised)

variable (lower upper : Option N) (x : N)

/-- A clamped value is at most the upper bound, whatever the lower bound is. -/
theorem clamped_le : ∀ hi ∈ upper, clamped lower upper x ≤ hi := by
  intro hi hhi
  rw [hhi]
  exact min_le_right _ _

/-- A value between the bounds stays as it is. -/
theorem clamped_eq_self (hlower : ∀ lo ∈ lower, lo ≤ x) (hupper : ∀ hi ∈ upper, x ≤ hi) :
    clamped lower upper x = x := by
  have hraised : lower.elim x (max x) = x := by
    cases lower with
    | none => rfl
    | some lo => exact max_eq_left (hlower lo rfl)
  unfold clamped
  rw [hraised]
  cases upper with
  | none => rfl
  | some hi => exact min_eq_left (hupper hi rfl)

/-- The lower bound is kept exactly if it does not exceed the upper one. -/
theorem le_clamped_iff :
    (∀ lo ∈ lower, lo ≤ clamped lower upper x) ↔ ∀ lo ∈ lower, ∀ hi ∈ upper, lo ≤ hi := by
  cases lower with
  | none => simp
  | some lo => cases upper <;> simp [clamped]

/-- Between bounds that are out of order, every number becomes the upper one. -/
theorem clamped_of_lt {lo hi : N} (h : hi < lo) : clamped (some lo) (some hi) x = hi :=
  min_eq_right (h.le.trans (le_max_right x lo))

/-- Clamping twice is clamping once. -/
theorem clamped_clamped : clamped lower upper (clamped lower upper x) = clamped lower upper x := by
  by_cases h : ∀ lo ∈ lower, ∀ hi ∈ upper, lo ≤ hi
  · -- what comes out lies within the bounds
    exact clamped_eq_self _ _ _ ((le_clamped_iff lower upper x).2 h) (clamped_le lower upper x)
  · push Not at h
    obtain ⟨lo, rfl, hi, rfl, hlt⟩ := h
    rw [clamped_of_lt _ hlt, clamped_of_lt _ hlt]

end

section

variable {D N : Type} [LinearOrder N] {m : Meaning D} (numbers : m.Numbers N)

/-- A bound that is applied by a function has the effect of that function on numbers. -/
theorem boundedValue_eq {name : String} {f : N → N → N}
    (hf : ∀ x y, m.function name [some (numbers.value x), some (numbers.value y)] =
      some (numbers.value (f x y))) (bound : Option Int) (x : N) :
    boundedValue m name (bound.map .int) (some (numbers.value x)) =
      some (numbers.value ((bound.map numbers.ofInt).elim x (f x))) := by
  cases bound with
  | none => rfl
  | some i =>
    show m.function name [some (numbers.value x), some (m.ofInt i)] = _
    rw [numbers.value_ofInt, hf]
    rfl

end

end Rule

/-- A clipping that was accepted with integers for bounds. The number that comes out does not exceed
the upper bound, it is the number that went in if that lies within the bounds, and clipping twice is
clipping once. It is not below the lower bound exactly if the lower bound does not exceed the upper
one. Of bounds that were accepted this is known unless they are one double. -/
theorem Transformation.clip_within_iff {D N : Type} [LinearOrder N] {m : Meaning D}
    (numbers : m.Numbers N)
    (hgreatest : ∀ x y, m.function "GREATEST" [some (numbers.value x), some (numbers.value y)] =
      some (numbers.value (max x y)))
    (hleast : ∀ x y, m.function "LEAST" [some (numbers.value x), some (numbers.value y)] =
      some (numbers.value (min x y)))
    {params : Json.Value} {t : Transformation} (hread : Transformation.read "clip" params = .ok t)
    {lower upper : Option Int} (hlower : ∀ lo ∈ lower, SignedWord lo)
    (hupper : ∀ hi ∈ upper, SignedWord hi)
    (hrule : t.rule = .clip (lower.map .int) (upper.map .int)) (d : Dialect) (row : Row D) {e : Expr}
    {x : N} (hvalue : e.value m row = some (numbers.value x)) :
    ∃ y, (t.rule.apply d e).value m row = some (numbers.value y) ∧
      (t.rule.apply d (t.rule.apply d e)).value m row = some (numbers.value y) ∧
      (∀ hi ∈ upper, y ≤ numbers.ofInt hi) ∧
      ((∀ lo ∈ lower, numbers.ofInt lo ≤ x) → (∀ hi ∈ upper, x ≤ numbers.ofInt hi) → y = x) ∧
      ((∀ lo ∈ lower, numbers.ofInt lo ≤ y) ↔ ∀ lo ∈ lower, ∀ hi ∈ upper, lo ≤ hi) ∧
      ∀ lo ∈ lower, ∀ hi ∈ upper, lo ≤ hi ∨ (Double.ofInt hi).same (Double.ofInt lo) = true := by
  have hclip {e : Expr} {x : N} (hvalue : e.value m row = some (numbers.value x)) :
      (t.rule.apply d e).value m row = some (numbers.value
        (Rule.clamped (lower.map numbers.ofInt) (upper.map numbers.ofInt) x)) := by
    rw [hrule, Rule.apply, Rule.value_clipped, hvalue, Rule.boundedValue_eq numbers hgreatest,
      Rule.boundedValue_eq numbers hleast]
    rfl
  refine ⟨_, hclip hvalue, ?_, ?_, ?_, ?_, ?_⟩
  · rw [hclip (hclip hvalue), Rule.clamped_clamped]
  · intro hi hhi
    exact Rule.clamped_le _ _ x _ (Option.mem_map_of_mem _ hhi)
  · intro hlo hhi
    exact Rule.clamped_eq_self _ _ x (by simpa using hlo) (by simpa using hhi)
  -- both bounds are kept exactly if they are in order
  · have hiff := Rule.le_clamped_iff (lower.map numbers.ofInt) (upper.map numbers.ofInt) x
    simpa [numbers.ofInt_strictMono.le_iff_le] using hiff
  · intro lo hlo hi hhi
    -- the check compares the bounds as doubles
    obtain ⟨-, -, hmade⟩ := ofKind_eq_ok.1 hread
    obtain ⟨lower', upper', hrule', -, -, -, horder⟩ := Params.clipRule_eq_ok hmade
    cases hrule.symm.trans hrule'
    have hdoubles : (Double.ofInt hi).lt (Double.ofInt lo) = false :=
      horder _ (Option.mem_map_of_mem _ hlo) _ (Option.mem_map_of_mem _ hhi)
    rcases le_or_gt lo hi with hle | hlt
    · exact .inl hle
    · exact .inr (Double.same_of_not_ofInt_lt (hupper hi hhi) (hlower lo hlo) hlt hdoubles)

/-- The bounds of a clipping, as parameters. -/
def boundsOf (lower upper : Int) : Json.Value :=
  .object [("column", .string "x"), ("lower", .number (.int lower)), ("upper", .number (.int upper))]

/-- The column of a row that has one number in every column. -/
def rowOf (x : ℚ) : Row (ℚ ⊕ String) := ⟨fun _ _ => some (.inl x), fun _ => none⟩

/-- Bounds that are one double, but in order: one half comes out within them. -/
theorem Transformation.clip_within_iff_close :
    ∃ t, Transformation.read "clip" (boundsOf 9007199254740992 9007199254740993) = .ok t ∧
      t.rule = .clip (some (.int 9007199254740992)) (some (.int 9007199254740993)) ∧
      ∃ y : ℚ, (t.rule.apply .duckdb (.col "x")).value .exact (rowOf (1 / 2)) = some (.inl y) ∧
        (t.rule.apply .duckdb (t.rule.apply .duckdb (.col "x"))).value .exact (rowOf (1 / 2)) =
          some (.inl y) ∧
        9007199254740992 ≤ y ∧ y ≤ 9007199254740993 := by
  have hread : ((Transformation.read "clip"
      (boundsOf 9007199254740992 9007199254740993)).toOption.map (·.rule)) =
      some (.clip (some (.int 9007199254740992)) (some (.int 9007199254740993))) := by
    decide +kernel
  obtain ⟨t, ht, hrule⟩ := Option.map_eq_some_iff.1 hread
  rw [toOption_eq_some] at ht
  have hlower : ∀ lo ∈ some (9007199254740992 : Int), SignedWord lo := by
    rintro _ ⟨⟩
    exact ⟨by decide, by decide⟩
  have hupper : ∀ hi ∈ some (9007199254740993 : Int), SignedWord hi := by
    rintro _ ⟨⟩
    exact ⟨by decide, by decide⟩
  obtain ⟨y, hy, htwice, habove, -, hbelow, -⟩ := clip_within_iff Meaning.exactNumbers
    (fun _ _ => rfl) (fun _ _ => rfl) ht hlower hupper hrule .duckdb (rowOf (1 / 2)) (e := .col "x")
    (x := 1 / 2) rfl
  -- the bounds are one apart, and equal as doubles
  have horder : ∀ lo ∈ some (9007199254740992 : Int), ∀ hi ∈ some (9007199254740993 : Int),
      lo ≤ hi := by
    rintro _ ⟨⟩ _ ⟨⟩
    decide
  have hlow : ((9007199254740992 : Int) : ℚ) ≤ y := hbelow.2 horder _ rfl
  have hhigh : y ≤ ((9007199254740993 : Int) : ℚ) := habove _ rfl
  exact ⟨t, ht, hrule, y, hy, htwice, by exact_mod_cast hlow, by exact_mod_cast hhigh⟩

/-- Bounds that are one double, and out of order, are accepted: five ends below the lower one. -/
theorem Transformation.clip_below_lower :
    ∃ t, Transformation.read "clip" (boundsOf 9007199254740993 9007199254740992) = .ok t ∧
      t.rule = .clip (some (.int 9007199254740993)) (some (.int 9007199254740992)) ∧
      ∃ y : ℚ, (t.rule.apply .duckdb (.col "x")).value .exact (rowOf 5) = some (.inl y) ∧
        y < 9007199254740993 := by
  have hread : ((Transformation.read "clip"
      (boundsOf 9007199254740993 9007199254740992)).toOption.map (·.rule)) =
      some (.clip (some (.int 9007199254740993)) (some (.int 9007199254740992))) := by
    decide +kernel
  obtain ⟨t, ht, hrule⟩ := Option.map_eq_some_iff.1 hread
  rw [toOption_eq_some] at ht
  refine ⟨t, ht, hrule, 9007199254740992, ?_, by norm_num⟩
  rw [hrule]
  decide +kernel

end DatasetSql
