import DatasetSql.Proofs.Names
import DatasetSql.Proofs.Search
import Mathlib

/-!
# Folding and the case of ASCII letters

Names are compared up to the case of ASCII letters and folded in every script. Lower-casing the ASCII
letters first changes no fold: a letter has case in either form, also where the end of a word is looked
for. So names that compare as equal are folded to one name, and between ASCII texts nothing else is.
-/

namespace DatasetSql

namespace Text

/-! ## Lower-casing ASCII letters first -/

/-- What does not tell apart the two cases of an ASCII letter does not see the case of ASCII letters. -/
theorem apply_toLower {α : Type} {f : Char → α}
    (h : ∀ n, n < 26 → f (Char.ofNat (0x41 + n)).toLower = f (Char.ofNat (0x41 + n))) (c : Char) :
    f c.toLower = f c := by
  by_cases hupper : c.isUpper = true
  · simp only [Char.isUpper, decide_eq_true_eq, UInt32.le_iff_toNat_le] at hupper
    obtain ⟨hlow, hhigh⟩ : 0x41 ≤ c.toNat ∧ c.toNat ≤ 0x5a := hupper
    have hc := h (c.toNat - 0x41) (by omega)
    rwa [Nat.add_sub_cancel' hlow, Char.ofNat_toNat] at hc
  · rw [Char.toLower_eq_of_not_isUpper hupper]

theorem isPassedOver_toLower (c : Char) :
    inRanges caseIgnorableRanges c.toLower.toNat = inRanges caseIgnorableRanges c.toNat :=
  apply_toLower (f := fun c => inRanges caseIgnorableRanges c.toNat) (by decide +kernel) c

theorem isCased_toLower (c : Char) :
    inRanges casedRanges c.toLower.toNat = inRanges casedRanges c.toNat :=
  apply_toLower (f := fun c => inRanges casedRanges c.toNat) (by decide +kernel) c

theorem isSigma_toLower (c : Char) : (c.toLower == 'Σ') = (c == 'Σ') :=
  apply_toLower (f := (· == 'Σ')) (by decide +kernel) c

theorem lowerChar_toLower (c : Char) : lowerChar c.toLower = lowerChar c :=
  apply_toLower (by decide +kernel) c

theorem upperChar_toLower (c : Char) : upperChar c.toLower = upperChar c :=
  apply_toLower (by decide +kernel) c

/-- Whether a letter follows is the same after lower-casing the ASCII letters. -/
theorem reachesCased_toLower (cs : List Char) :
    reachesCased (cs.map Char.toLower) = reachesCased cs := by
  unfold reachesCased
  rw [List.dropWhile_map]
  have hpass : (fun c => inRanges caseIgnorableRanges c.toNat) ∘ Char.toLower =
      fun c => inRanges caseIgnorableRanges c.toNat := funext isPassedOver_toLower
  rw [hpass]
  cases cs.dropWhile fun c => inRanges caseIgnorableRanges c.toNat with
  | nil => rfl
  | cons c rest => exact isCased_toLower c

/-- The lower case of a text, which looks at both sides of a sigma, is that of its ASCII lower
case. -/
theorem lowerFrom_toLower (before cs : List Char) :
    lowerFrom (before.map Char.toLower) (cs.map Char.toLower) = lowerFrom before cs := by
  induction cs generalizing before with
  | nil => rfl
  | cons c cs ih =>
    have hrest := ih (c :: before)
    rw [List.map_cons] at hrest
    rw [List.map_cons, lowerFrom, lowerFrom, hrest, isSigma_toLower, lowerChar_toLower,
      reachesCased_toLower, reachesCased_toLower]

/-- Lower-casing the ASCII letters first changes nothing of the full lower case. -/
theorem lower_lowerAscii (s : String) : lower (lowerAscii s) = lower s := by
  rw [lower, lower, lowerAscii, String.toList_ofList, ← lowerFrom_toLower [] s.toList]
  rfl

theorem upper_lowerAscii (s : String) : upper (lowerAscii s) = upper s := by
  rw [upper, upper, lowerAscii, String.toList_ofList, List.flatMap_map]
  simp only [upperChar_toLower]

/-! ## ASCII texts -/

/-- On ASCII characters the full upper case is the ASCII one. -/
theorem flatMap_upperChar_of_ascii {cs : List Char} (h : ∀ c ∈ cs, c.toNat < 0x80) :
    cs.flatMap upperChar = cs.map Char.toUpper := by
  rw [List.map_eq_flatMap]
  refine List.flatMap_congr fun c hc => ?_
  rw [upperChar, if_pos (h c hc)]

/-- Texts are equal up to the case of ASCII letters exactly if their ASCII lower cases are equal. -/
theorem eqIgnoreCase_iff_lowerAscii {a b : String} :
    eqIgnoreCase a b = true ↔ lowerAscii a = lowerAscii b := by
  rw [eqIgnoreCase, beq_iff_eq, lowerAscii, lowerAscii, String.ofList_inj]

theorem eqIgnoreCase_comm (a b : String) : eqIgnoreCase a b = eqIgnoreCase b a :=
  BEq.comm

/-! ## Cutting at a separator -/

/-- A separator that is no letter cuts texts that differ in case alike. -/
theorem splitOnce_of_eqIgnoreCase {sep : Char} (hsep : sep.isAlpha = false) {a b x y : String}
    (hsame : eqIgnoreCase a b = true) (ha : splitOnce sep a = some (x, y)) :
    ∃ x' y', splitOnce sep b = some (x', y') ∧ eqIgnoreCase x x' = true ∧
      eqIgnoreCase y y' = true := by
  -- only the separator itself is lower-cased to it
  have honly {c : Char} (hc : c.toLower = sep) : c = sep := by
    have halpha := Char.isAlpha_toLower_eq_isAlpha c
    rw [hc, hsep] at halpha
    have hupper : ¬ c.isUpper = true := fun hupper => by simp [Char.isAlpha, hupper] at halpha
    rwa [Char.toLower_eq_of_not_isUpper hupper] at hc
  have hstays : sep.toLower = sep := by
    refine Char.toLower_eq_of_not_isUpper fun hupper => ?_
    simp [Char.isAlpha, hupper] at hsep
  rw [splitOnce_eq_some_iff] at ha
  obtain ⟨htext, hnone⟩ := ha
  rw [eqIgnoreCase, beq_iff_eq, htext, List.map_append, List.map_cons, hstays, eq_comm,
    List.map_eq_append_iff] at hsame
  obtain ⟨before, after, hb, hbefore, hafter⟩ := hsame
  obtain ⟨c, rest, rfl, hc, hrest⟩ := List.map_eq_cons_iff.1 hafter
  obtain rfl := honly hc
  refine ⟨String.ofList before, String.ofList rest, ?_, ?_, ?_⟩
  · rw [splitOnce_eq_some_iff, String.toList_ofList, String.toList_ofList]
    refine ⟨hb, fun hmem => hnone ?_⟩
    have hmem := List.mem_map_of_mem (f := Char.toLower) hmem
    rw [hbefore, hstays] at hmem
    obtain ⟨c', hc', hlower⟩ := List.mem_map.1 hmem
    rwa [← honly hlower]
  · rw [eqIgnoreCase, String.toList_ofList, hbefore, beq_self_eq_true]
  · rw [eqIgnoreCase, String.toList_ofList, hrest, beq_self_eq_true]

end Text

namespace Dialect

/-- Every dialect folds a name and its ASCII lower case to the same identifier. -/
theorem foldIdentifier_lowerAscii (d : Dialect) (name : String) :
    d.foldIdentifier (Text.lowerAscii name) = d.foldIdentifier name := by
  cases d with
  | snowflake => exact Text.upper_lowerAscii name
  | oracle => exact Text.upper_lowerAscii name
  | _ => exact Text.lower_lowerAscii name

/-- Names that differ in the case of ASCII letters alone are folded to one name. -/
theorem foldIdentifier_congr (d : Dialect) {a b : String} (h : Text.eqIgnoreCase a b = true) :
    d.foldIdentifier a = d.foldIdentifier b := by
  rw [← foldIdentifier_lowerAscii, Text.eqIgnoreCase_iff_lowerAscii.1 h, foldIdentifier_lowerAscii]

/-- Of ASCII names, no others are folded to one name. -/
theorem foldIdentifier_eq_iff (d : Dialect) {a b : String} (ha : isAscii a = true)
    (hb : isAscii b = true) :
    d.foldIdentifier a = d.foldIdentifier b ↔ Text.eqIgnoreCase a b = true := by
  refine ⟨fun h => ?_, foldIdentifier_congr d⟩
  simp only [isAscii, List.all_eq_true, decide_eq_true_eq] at ha hb
  have hlower (h : Text.lower a = Text.lower b) : Text.eqIgnoreCase a b = true := by
    rwa [Text.lower, Text.lower, String.ofList_inj, lowerFrom_of_ascii [] ha,
      lowerFrom_of_ascii [] hb, ← beq_iff_eq] at h
  have hupper (h : Text.upper a = Text.upper b) : Text.eqIgnoreCase a b = true := by
    rw [Text.upper, Text.upper, String.ofList_inj, Text.flatMap_upperChar_of_ascii ha,
      Text.flatMap_upperChar_of_ascii hb] at h
    have h := congrArg (List.map Char.toLower) h
    simp only [List.map_map, Function.comp_def, Char.toLower_toUpper_eq_toLower] at h
    rwa [Text.eqIgnoreCase, beq_iff_eq]
  cases d with
  | snowflake => exact hupper h
  | oracle => exact hupper h
  | _ => exact hlower h

end Dialect

end DatasetSql
