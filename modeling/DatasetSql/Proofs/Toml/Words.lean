import DatasetSql.Proofs.Decimals
import DatasetSql.Proofs.Spelling
import DatasetSql.Proofs.Toml.Keys
import DatasetSql.Toml.Scalar

/-!
# Words are read back

A truth value, an integer or a number with a fraction is one word, and it is read back as what it was
written for. It is no moment in time: there is no colon in it, and no minus but at its start.
-/

namespace DatasetSql

open Numeric
open Dialect (Digits digits_toString toString_ne_nil)

/-- A number that a word of 64 bits, signed or not, or a double holds. -/
def Json.Number.Machine : Json.Number → Prop
  | .int i => -(signedBound : Int) ≤ i ∧ i < wordCount
  | .float x => x.Normal

namespace Toml

/-! ## Digits -/

theorem hexValue?_digit {c : Char} (h : c.isDigit = true) :
    Json.hexValue? c = some (c.toNat - 48) := if_pos h

theorem valueInBase_digits {cs : List Char} (h : Digits cs) :
    valueInBase 10 cs = Nat.ofDigitChars 10 cs 0 := by
  suffices hall : ∀ n, cs.foldl (fun n c => n * 10 + (Json.hexValue? c).getD 0) n =
      Nat.ofDigitChars 10 cs n from hall 0
  induction cs with
  | nil => exact fun n => rfl
  | cons c cs ih =>
    obtain ⟨hc, hcs⟩ := List.forall_mem_cons.1 h
    intro n
    rw [List.foldl_cons, ih hcs, hexValue?_digit hc, Nat.mul_comm]
    rfl

theorem toList_toString (n : Nat) : (toString n).toList = Nat.toDigits 10 n := by
  rw [Nat.toString_eq_repr, Nat.repr_eq_ofList_toDigits, String.toList_ofList]

/-- A natural number has the value of its digits. -/
theorem valueInBase_toString (n : Nat) : valueInBase 10 (toString n).toList = n := by
  rw [valueInBase_digits (digits_toString n), toList_toString]
  exact Nat.ofDigitChars_toDigits (by decide) (by decide)

/-- Digits behind others move these by as many places. -/
theorem valueInBase_append (base : Nat) (cs cs' : List Char) :
    valueInBase base (cs ++ cs') =
      valueInBase base cs * base ^ cs'.length + valueInBase base cs' := by
  induction cs' using List.reverseRecOn with
  | nil => simp [valueInBase]
  | append_singleton cs' c ih =>
    have hsnoc (ds : List Char) : valueInBase base (ds ++ [c]) =
        valueInBase base ds * base + (Json.hexValue? c).getD 0 := by
      rw [valueInBase, List.foldl_append]
      rfl
    rw [← List.append_assoc, hsnoc, hsnoc, ih, List.length_append, List.length_singleton, pow_succ]
    ring

theorem valueInBase_zeros (base n : Nat) : valueInBase base (List.replicate n '0') = 0 := by
  induction n with
  | zero => rfl
  | succ n ih =>
    have hzero : valueInBase base ['0'] = 0 := by
      rw [valueInBase, List.foldl_cons, Nat.zero_mul]
      rfl
    rw [List.replicate_succ', valueInBase_append, ih, Nat.zero_mul, hzero]

/-- A positive number does not start with a zero. -/
theorem head_toString {n : Nat} (h : 0 < n) :
    ∃ c cs, (toString n).toList = c :: cs ∧ c ≠ '0' := by
  rw [toList_toString]
  induction n using Nat.strongRecOn with
  | ind n ih =>
    by_cases hlt : n < 10
    · rw [Nat.toDigits_of_lt_base hlt]
      refine ⟨_, [], rfl, ?_⟩
      interval_cases n <;> decide
    · obtain ⟨c, cs, heq, hc⟩ := ih (n / 10) (by omega) (by omega)
      rw [Nat.toDigits_of_base_le (by decide) (by omega), heq]
      exact ⟨c, _, rfl, hc⟩

theorem digits?_digits {cs : List Char} (hne : cs ≠ []) (h : Digits cs) :
    digits? Char.isDigit cs = some cs := by
  induction cs with
  | nil => exact absurd rfl hne
  | cons c cs ih =>
    obtain ⟨hc, hcs⟩ := List.forall_mem_cons.1 h
    cases cs with
    | nil => simp [digits?, hc]
    | cons d cs =>
      have hunderscore : d ≠ '_' := by
        rintro rfl
        exact absurd (hcs '_' List.mem_cons_self) (by decide)
      rw [digits?, if_pos hc, ih (by simp) hcs]
      · rfl
      · simp
      · simpa using hunderscore

/-- Whether digits may stand for a whole number: a zero stands alone. -/
def Whole (cs : List Char) : Prop := cs ≠ [] ∧ Digits cs ∧ (cs = ['0'] ∨ cs.head? ≠ some '0')

theorem wholeDigits?_whole {cs : List Char} (h : Whole cs) : wholeDigits? cs = some cs := by
  obtain ⟨hne, hdigits, hzero⟩ := h
  rw [wholeDigits?, digits?_digits hne hdigits, Option.bind_eq_bind, Option.bind_some]
  rcases hzero with rfl | hhead
  · rfl
  · split
    · exact absurd rfl hhead
    · rfl

/-- A natural number is written without leading zeros. -/
theorem whole_toString (n : Nat) : Whole (toString n).toList := by
  refine ⟨toString_ne_nil n, digits_toString n, ?_⟩
  rcases Nat.eq_zero_or_pos n with rfl | hpos
  · exact .inl rfl
  · obtain ⟨c, cs, heq, hc⟩ := head_toString hpos
    rw [heq]
    exact .inr fun h => hc (Option.some.inj h)

/-! ## Numbers -/

/-- A whole number is read as an integer. -/
theorem decimal?_whole {cs : List Char} (h : Whole cs) (negative : Bool) :
    decimal? negative cs =
      integer? (if negative then -(valueInBase 10 cs : Int) else valueInBase 10 cs) := by
  have hspan : (cs ++ []).span (fun c => c.isDigit || c == '_') = (cs, []) :=
    Text.span_append (fun c hc => by rw [h.2.1 c hc, Bool.true_or]) fun _ hc => nomatch hc
  rw [List.append_nil] at hspan
  rw [decimal?, hspan, Option.bind_eq_bind]
  dsimp only
  rw [wholeDigits?_whole h]
  rfl

/-- Digits around a point are read as a floating-point number. -/
theorem decimal?_point {whole fraction : List Char} (hwhole : Whole whole) (hne : fraction ≠ [])
    (hfraction : Digits fraction) (negative : Bool) :
    decimal? negative (whole ++ '.' :: fraction) = double? negative whole fraction 0 := by
  have hspan : (whole ++ '.' :: fraction).span (fun c => c.isDigit || c == '_') =
      (whole, '.' :: fraction) := by
    refine Text.span_append (fun c hc => by rw [hwhole.2.1 c hc, Bool.true_or]) ?_
    rintro c ⟨⟩
    rfl
  have hspan' : (fraction ++ []).span (fun c => c.isDigit || c == '_') = (fraction, []) :=
    Text.span_append (fun c hc => by rw [hfraction c hc, Bool.true_or]) fun _ hc => nomatch hc
  rw [List.append_nil] at hspan'
  -- no exponent follows
  have hread : fraction? fraction = some (fraction, 0) := by
    rw [fraction?, hspan']
    dsimp only
    rw [digits?_digits hne hfraction]
    rfl
  rw [decimal?, hspan]
  dsimp only
  rw [wholeDigits?_whole hwhole, Option.bind_eq_bind, Option.bind_some]
  simp only [hread]
  rfl

/-! ## Words -/

/-- A sign that is a minus or missing. -/
def signText (negative : Bool) : List Char := if negative then ['-'] else []

theorem twoDigits?_mem {cs rest : List Char} {n : Nat} (h : twoDigits? cs = some (n, rest)) :
    ∀ c ∈ rest, c ∈ cs := by
  unfold twoDigits? at h
  split at h
  · split at h
    · cases h
      exact fun c hc => List.mem_cons_of_mem _ (List.mem_cons_of_mem _ hc)
    · exact nomatch h
  · exact nomatch h

theorem mem_of_expect? {c : Char} {cs rest : List Char} (h : expect? c cs = some rest) : c ∈ cs := by
  cases cs with
  | nil => exact nomatch h
  | cons d cs =>
    change (if (d == c) = true then some cs else none) = some rest at h
    split at h
    · next heq => exact List.mem_cons.2 (.inl (beq_iff_eq.1 heq).symm)
    · exact nomatch h

/-- A date has a minus in it. -/
theorem mem_of_date? {cs : List Char} {r : String × List Char} (h : date? cs = some r) : '-' ∈ cs := by
  simp only [date?, Option.bind_eq_bind, Option.bind_eq_some_iff] at h
  obtain ⟨century, h1, year, h2, rest, h3, -⟩ := h
  exact twoDigits?_mem h1 _ (twoDigits?_mem h2 _ (mem_of_expect? h3))

/-- A time of day has a colon in it. -/
theorem mem_of_time? {cs : List Char} {r : String × List Char} (h : time? cs = some r) : ':' ∈ cs := by
  simp only [time?, Option.bind_eq_bind, Option.bind_eq_some_iff] at h
  obtain ⟨hour, h1, rest, h2, -⟩ := h
  exact twoDigits?_mem h1 _ (mem_of_expect? h2)

/-- A word without a colon and without a minus, but for a sign, is no moment in time. -/
theorem datetime?_eq_none {cs : List Char} (negative : Bool) (hminus : '-' ∉ cs) (hcolon : ':' ∉ cs) :
    datetime? (signText negative ++ cs) = none ∧ date? (signText negative ++ cs) = none := by
  have hdate : date? (signText negative ++ cs) = none := by
    cases negative with
    | false => exact Option.eq_none_iff_forall_not_mem.2 fun r hr => hminus (mem_of_date? hr)
    | true => cases cs <;> rfl
  have htime : time? (signText negative ++ cs) = none := by
    refine Option.eq_none_iff_forall_not_mem.2 fun r hr => ?_
    rcases List.mem_append.1 (mem_of_time? hr) with hsign | hmem
    · cases negative <;> simp [signText] at hsign
    · exact hcolon hmem
  refine ⟨?_, hdate⟩
  rw [datetime?, hdate]
  dsimp only
  rw [htime]
  rfl

/-- What stands behind a value: the rest of its line, a comma, or the end of what it is in. -/
inductive Closes : List Char → Prop where
  | line (cs : List Char) : Closes ('\n' :: cs)
  | comma (cs : List Char) : Closes (',' :: cs)
  | bracket (cs : List Char) : Closes (']' :: cs)
  | brace (cs : List Char) : Closes (' ' :: '\x7d' :: cs)

theorem Closes.noQuote {rest : List Char} (h : Closes rest) : NoQuote rest := by
  cases h <;> exact ⟨by simp, by simp⟩

/-- A word ends where the value does. -/
theorem splitWord_append {word rest : List Char} (hword : ∀ c ∈ word, isWordChar c = true)
    (hrest : Closes rest) : splitWord (word ++ rest) = (word, rest) := by
  have hspan : (word ++ rest).span isWordChar = (word, rest) := by
    refine Text.span_append hword fun c hc => ?_
    cases hrest <;> cases hc <;> rfl
  rw [splitWord, hspan]
  cases hrest <;> rfl

theorem isWordChar_digit {c : Char} (h : c.isDigit = true) : isWordChar c = true := by
  simp [isWordChar, Char.isAlphanum, h]

/-- The characters of a number behind its sign, which starts with a digit. -/
def NumberText (cs : List Char) : Prop :=
  (∃ c, cs.head? = some c ∧ c.isDigit = true) ∧ ∀ c ∈ cs, c.isDigit = true ∨ c = '.'

section NumberText

variable {cs : List Char} (h : NumberText cs)

include h

/-- A number has digits and points only. -/
theorem NumberText.notMem {c : Char} (hdigit : c.isDigit = false) (hpoint : c ≠ '.') : c ∉ cs := by
  intro hmem
  rcases h.2 c hmem with hc | hc
  · rw [hc] at hdigit
    exact nomatch hdigit
  · exact hpoint hc

theorem NumberText.head_ne {c : Char} (hdigit : c.isDigit = false) : cs.head? ≠ some c := by
  obtain ⟨d, hhead, hd⟩ := h.1
  rw [hhead]
  rintro ⟨⟩
  rw [hd] at hdigit
  exact nomatch hdigit

/-- The sign is taken off again. -/
theorem splitSign_signText (negative : Bool) :
    splitSign (signText negative ++ cs) = (negative, cs) := by
  cases negative with
  | true => rfl
  | false =>
    show splitSign cs = (false, cs)
    unfold splitSign
    split
    · exact absurd rfl (h.head_ne (by decide))
    · exact absurd rfl (h.head_ne (by decide))
    · rfl

/-- A number with its sign is read as a decimal: it has no prefix, no exponent and no name. -/
theorem number?_signText (negative : Bool) :
    number? (signText negative ++ cs) = decimal? negative cs := by
  -- the texts in other bases have a letter in the second place
  have hletter {c : Char} {rest : List Char} (hdigit : c.isDigit = false) (hpoint : c ≠ '.') :
      signText negative ++ cs ≠ '0' :: c :: rest := by
    intro heq
    cases negative with
    | true => exact nomatch heq
    | false =>
      apply h.notMem hdigit hpoint
      rw [show cs = '0' :: c :: rest from heq]
      simp
  unfold number?
  split
  · next heq => exact absurd heq (hletter (by decide) (by decide))
  · next heq => exact absurd heq (hletter (by decide) (by decide))
  · next heq => exact absurd heq (hletter (by decide) (by decide))
  · have hinf : ¬ (cs == "inf".toList) = true := by
      rw [beq_iff_eq]
      rintro rfl
      exact h.head_ne (by decide) rfl
    have hnan : ¬ (cs == "nan".toList) = true := by
      rw [beq_iff_eq]
      rintro rfl
      exact h.head_ne (by decide) rfl
    rw [splitSign_signText h]
    dsimp only
    rw [if_neg hinf, if_neg hnan]

/-- The word of a number is read as that number. -/
theorem wordValue?_signText (negative : Bool) :
    wordValue? (signText negative ++ cs) = decimal? negative cs := by
  have hword {c : Char} {rest : List Char} (hdigit : c.isDigit = false) (hminus : c ≠ '-') :
      ¬ (signText negative ++ cs == c :: rest) = true := by
    rw [beq_iff_eq]
    intro heq
    cases negative with
    | true => exact hminus (List.cons.inj heq).1.symm
    | false =>
      rw [show cs = c :: rest from heq] at h
      exact h.head_ne hdigit rfl
  have hnone := (datetime?_eq_none negative (h.notMem (by decide) (by decide))
    (h.notMem (by decide) (by decide))).1
  unfold wordValue?
  have htrue : "true".toList = ['t', 'r', 'u', 'e'] := rfl
  have hfalse : "false".toList = ['f', 'a', 'l', 's', 'e'] := rfl
  rw [htrue, hfalse, if_neg (hword (by decide) (by decide)), if_neg (hword (by decide) (by decide)),
    hnone]
  exact number?_signText h negative

end NumberText

theorem Whole.numberText {cs : List Char} (h : Whole cs) : NumberText cs := by
  obtain ⟨c, cs, rfl⟩ := List.exists_cons_of_ne_nil h.1
  exact ⟨⟨c, rfl, h.2.1 c List.mem_cons_self⟩, fun d hd => .inl (h.2.1 d hd)⟩

theorem wordValue?_bool (b : Bool) :
    wordValue? (if b then "true" else "false").toList = some (.boolean b) := by
  cases b <;> rfl

/-- The text of an integer is its sign and the digits of its size. -/
theorem toList_toString_int (i : Int) :
    (toString i).toList = signText (decide (i < 0)) ++ (toString i.natAbs).toList := by
  cases i with
  | ofNat n => rfl
  | negSucc n =>
    rw [decide_eq_true (Int.negSucc_lt_zero n)]
    show ("-" ++ toString (n + 1)).toList = '-' :: (toString (n + 1)).toList
    rw [String.toList_append]
    rfl

/-! ## Numbers with a fraction -/

/-- Digits before and after a point, and the number that they stand for. -/
structure Positional (cs : List Char) (q : ℚ) (before after : List Char) : Prop where
  text : cs = before ++ '.' :: after
  whole : Whole before
  nonempty : after ≠ []
  digits : Digits after
  value : (valueInBase 10 (before ++ after) : ℚ) * 10 ^ (-(after.length : Int)) = q

/-- Wherever the point stands among the digits, the number is the same. -/
theorem exists_positional {digits : Nat} (hpos : 0 < digits) (power : Int) :
    ∃ before after, Positional
      (positionalText (toString digits).toList
        ((toString digits).toList.length + power)).toList
      (digits * 10 ^ power) before after := by
  have hvalue := valueInBase_toString digits
  have hdigits := digits_toString digits
  obtain ⟨c, cs, hhead, hc⟩ := head_toString hpos
  generalize (toString digits).toList = ds at *
  have hne : ds ≠ [] := by simp [hhead]
  have hten : (10 : ℚ) ≠ 0 := by norm_num
  unfold positionalText
  dsimp only
  split_ifs with hlarge hmiddle
  · -- zeros stand between the digits and the point
    set n := (ds.length + power - ds.length).toNat with hn
    have hpower : power = (n : Int) := by omega
    refine ⟨ds ++ List.replicate n '0', ['0'], ?_, ⟨?_, ?_, ?_⟩, by simp, Dialect.digits_zeros 1, ?_⟩
    · simp
    · simp [hne]
    · exact hdigits.append (Dialect.digits_zeros n)
    · exact .inr (by simp [hhead, hc])
    · rw [valueInBase_append, valueInBase_append, valueInBase_zeros, hvalue, hpower]
      have hzero : valueInBase 10 ['0'] = 0 := valueInBase_zeros 10 1
      rw [hzero, List.length_replicate]
      simp
  · -- the point stands among the digits
    set n := (ds.length + power : Int).toNat with hn
    have hlt : n < ds.length := by omega
    have hpower : power = -((ds.drop n).length : Int) := by
      rw [List.length_drop]
      omega
    refine ⟨ds.take n, ds.drop n, by simp, ⟨?_, fun d hd => hdigits d (List.mem_of_mem_take hd), ?_⟩,
      ?_, fun d hd => hdigits d (List.mem_of_mem_drop hd), ?_⟩
    · rw [Ne, List.take_eq_nil_iff]
      rintro (hzero | hnil)
      · omega
      · exact hne hnil
    · obtain ⟨m, hm⟩ := Nat.exists_eq_succ_of_ne_zero (show n ≠ 0 by omega)
      exact .inr (by simp [hm, hhead, hc])
    · rw [Ne, List.drop_eq_nil_iff]
      omega
    · rw [List.take_append_drop, hvalue, hpower]
  · -- zeros stand between the point and the digits
    set n := (-(ds.length + power : Int)).toNat with hn
    have hpower : power = -((n + ds.length : ℕ) : Int) := by omega
    refine ⟨['0'], List.replicate n '0' ++ ds, ?_, ⟨?_, ?_, ?_⟩, by simp [hne],
      (Dialect.digits_zeros n).append hdigits, ?_⟩
    · simp
    · simp
    · exact Dialect.digits_zeros 1
    · exact .inl rfl
    · rw [← List.append_assoc, valueInBase_append, hvalue, hpower]
      have hzero : valueInBase 10 (['0'] ++ List.replicate n '0') = 0 := valueInBase_zeros 10 (n + 1)
      rw [hzero, List.length_append, List.length_replicate]
      simp

theorem Positional.numberText {cs before after : List Char} {q : ℚ}
    (h : Positional cs q before after) : NumberText cs := by
  obtain ⟨⟨c, hhead, hc⟩, hbefore⟩ := h.whole.numberText
  rw [h.text]
  refine ⟨⟨c, ?_, hc⟩, ?_⟩
  · cases before with
    | nil => exact nomatch hhead
    | cons d before => exact hhead
  · intro d hd
    rcases List.mem_append.1 hd with hmem | hmem
    · exact hbefore d hmem
    · rcases List.mem_cons.1 hmem with rfl | hmem
      · exact .inr rfl
      · exact .inl (h.digits d hmem)

/-- The shortest digits of a double are read as that double. -/
theorem double?_of_rounds {x : Double} (hx : x.Normal) (hm : x.mantissa ≠ 0)
    {cs before after : List Char} (h : Positional cs x.shortest.value before after) :
    double? x.negative before after 0 = some (.float (.finite x)) := by
  have hrounds := Double.rounds_shortest hx hm
  rw [← h.value, ← Int.zero_sub] at hrounds
  rw [double?, Double.ofDecimal_of_rounds hx hm hrounds]
  rfl

/-- The text of a double is its sign and digits that are read back. -/
theorem decimal?_text {x : Double} (hx : x.Normal) :
    ∃ cs, (floatLayout.text x).toList = signText x.negative ++ cs ∧ NumberText cs ∧
      decimal? x.negative cs = some (.float (.finite x)) := by
  have htext (body : String) : ((if x.negative then "-" else "") ++ body).toList =
      signText x.negative ++ body.toList := by
    rw [String.toList_append]
    cases x.negative <;> rfl
  unfold FloatLayout.text
  -- zero has no shortest digits
  by_cases hm : x.mantissa = 0
  · have hzero : Positional "0.0".toList 0 ['0'] ['0'] :=
      ⟨rfl, whole_toString 0, by simp, Dialect.digits_zeros 1, by
        have hdigits : valueInBase 10 (['0'] ++ ['0']) = 0 := valueInBase_zeros 10 2
        rw [hdigits, Nat.cast_zero, zero_mul]⟩
    rw [if_pos (by simpa using hm), htext]
    refine ⟨_, rfl, hzero.numberText, ?_⟩
    rw [hzero.text, decimal?_point hzero.whole hzero.nonempty hzero.digits, hx.eq_zero hm]
    rfl
  · have hpos : 0 < x.shortest.digits := by
      rw [Nat.pos_iff_ne_zero]
      intro hzero
      have hvalue := (Double.rounds_shortest hx hm).pos hm
      rw [Decimal.value, hzero, Nat.cast_zero, zero_mul] at hvalue
      exact lt_irrefl _ hvalue
    obtain ⟨before, after, h⟩ := exists_positional hpos x.shortest.power
    rw [if_neg (by simpa using hm), htext]
    refine ⟨_, rfl, h.numberText, ?_⟩
    show decimal? x.negative (positionalText (toString x.shortest.digits).toList
      ((toString x.shortest.digits).toList.length + x.shortest.power)).toList = _
    rw [h.text, decimal?_point h.whole h.nonempty h.digits]
    exact double?_of_rounds hx hm h

/-- The text of an integer is its sign and digits that are read back. -/
theorem decimal?_toString (i : Int) : ∃ negative cs,
    (toString i).toList = signText negative ++ cs ∧ NumberText cs ∧
      decimal? negative cs = integer? i := by
  have hwhole := whole_toString i.natAbs
  refine ⟨_, _, toList_toString_int i, hwhole.numberText, ?_⟩
  rw [decimal?_whole hwhole, valueInBase_toString]
  congr 1
  split_ifs with h
  · rw [decide_eq_true_eq] at h
    omega
  · rw [decide_eq_true_eq] at h
    omega

/-- The number of a machine is read back from its text. -/
theorem decimal?_numberText {n : Json.Number} (h : n.Machine) : ∃ negative cs v,
    (numberText n).toList = signText negative ++ cs ∧ NumberText cs ∧
      decimal? negative cs = some v ∧ v.data = .number (some n) := by
  cases n with
  | int i =>
    obtain ⟨hlow, hhigh⟩ := h
    obtain ⟨negative, cs, htext, hcs, hread⟩ := decimal?_toString i
    refine ⟨negative, cs, .integer i, htext, hcs, ?_, ?_⟩
    · rw [hread, integer?, if_pos]
      have hwords : signedBound ≤ pow2 127 ∧ wordCount ≤ pow2 128 := by decide
      omega
    · rw [Value.data, integerData, if_pos ⟨hlow, hhigh⟩]
  | float x =>
    obtain ⟨cs, htext, hcs, hread⟩ := decimal?_text h
    exact ⟨x.negative, cs, _, htext, hcs, hread, rfl⟩

end Toml

end DatasetSql
