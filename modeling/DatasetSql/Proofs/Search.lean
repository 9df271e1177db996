import DatasetSql.Text.Search
import Mathlib.Data.List.Induction
import Mathlib.Data.List.Nodup
import Mathlib.Data.List.TakeDrop
import Mathlib.Data.List.TakeWhile

/-!
# What searches find

A text is cut at the first occurrence of a separator, and joined of parts with a separator between
neighbours. Of a list, every element is kept where it occurs first: the kept ones are the elements of
the list, and they stand in the order in which the list gets to them.
-/

namespace DatasetSql.Text

/-- What a test holds of is read up to the first character that it does not hold of. -/
theorem span_append {p : Char → Bool} {s t : List Char} (hs : ∀ c ∈ s, p c = true)
    (ht : ∀ c, t.head? = some c → p c = false) : (s ++ t).span p = (s, t) := by
  have hstop : t.takeWhile p = [] ∧ t.dropWhile p = t := by
    cases t with
    | nil => exact ⟨rfl, rfl⟩
    | cons c t =>
      have hc : ¬ p c = true := by simp [ht c rfl]
      exact ⟨List.takeWhile_cons_of_neg hc, List.dropWhile_cons_of_neg hc⟩
  rw [List.span_eq_takeWhile_dropWhile, List.takeWhile_append_of_pos hs,
    List.dropWhile_append_of_pos hs, hstop.1, hstop.2, List.append_nil]

theorem bne_of_notMem {sep : Char} {s : List Char} (h : sep ∉ s) : ∀ c ∈ s, (c != sep) = true := by
  intro c hc
  rw [bne_iff_ne]
  rintro rfl
  exact h hc

/-- Up to its first occurrence, a character is not there. -/
theorem span_append_of_notMem {sep : Char} {s t : List Char} (hs : sep ∉ s)
    (ht : ∀ c, t.head? = some c → c = sep) : (s ++ t).span (· != sep) = (s, t) := by
  refine span_append (bne_of_notMem hs) fun c hc => ?_
  rw [ht c hc]
  exact bne_self_eq_false sep

/-- A text is cut at a separator that has none before it. -/
theorem splitOnce_eq_some_iff {sep : Char} {s before after : String} :
    splitOnce sep s = some (before, after) ↔
      s.toList = before.toList ++ sep :: after.toList ∧ sep ∉ before.toList := by
  constructor
  · intro h
    unfold splitOnce at h
    split at h
    · exact nomatch h
    next found c rest hspan =>
      cases h
      rw [List.span_eq_takeWhile_dropWhile, Prod.mk.injEq] at hspan
      obtain ⟨hfound, hrest⟩ := hspan
      -- the test fails at the first character that is dropped
      have hsep : c = sep := by
        have hhead := List.head?_dropWhile_not (· != sep) s.toList
        rw [hrest] at hhead
        simpa using hhead
      have hwhole : s.toList = found ++ sep :: rest := by
        rw [← hfound, ← hsep, ← hrest, hsep, List.takeWhile_append_dropWhile]
      rw [String.toList_ofList, String.toList_ofList]
      refine ⟨hwhole, fun hmem => ?_⟩
      rw [← hfound] at hmem
      simpa using List.mem_takeWhile_imp hmem
  · rintro ⟨hs, hbefore⟩
    have hspan : s.toList.span (· != sep) = (before.toList, sep :: after.toList) := by
      rw [hs]
      exact span_append_of_notMem hbefore fun c hc => (Option.some.inj hc).symm
    rw [splitOnce, hspan]
    simp

/-- A text without the separator is not cut. -/
theorem splitOnce_eq_none_iff {sep : Char} {s : String} : splitOnce sep s = none ↔ sep ∉ s.toList := by
  constructor
  · intro h hmem
    obtain ⟨before, after, hs, hbefore⟩ := List.eq_append_cons_of_mem hmem
    have hcut : splitOnce sep s = some (String.ofList before, String.ofList after) := by
      rw [splitOnce_eq_some_iff, String.toList_ofList, String.toList_ofList]
      exact ⟨hs, hbefore⟩
    exact Option.some_ne_none _ (hcut.symm.trans h)
  · intro h
    rw [Option.eq_none_iff_forall_ne_some]
    rintro ⟨before, after⟩ hcut
    rw [splitOnce_eq_some_iff] at hcut
    exact h (by simp [hcut.1])

/-! ## Joining -/

theorem joined_singleton (sep part : String) : joined sep [part] = part := by
  simp [joined]

/-- A separator stands behind the first of several parts. -/
theorem joined_cons_cons (sep part part' : String) (parts : List String) :
    (joined sep (part :: part' :: parts)).toList =
      part.toList ++ (sep.toList ++ (joined sep (part' :: parts)).toList) := by
  simp [joined]

/-! ## First occurrences -/

section FirstOccurrences

variable {α : Type}

/-- A list gets to one element before it gets to another. -/
def Precedes (xs : List α) (a b : α) : Prop :=
  ∃ before after, xs = before ++ after ∧ a ∈ before ∧ b ∉ before

/-- An order of first occurrences stays behind more elements. -/
theorem Precedes.append {xs : List α} {a b : α} (h : Precedes xs a b) (ys : List α) :
    Precedes (xs ++ ys) a b := by
  obtain ⟨before, after, rfl, ha, hb⟩ := h
  exact ⟨before, after ++ ys, List.append_assoc before after ys, ha, hb⟩

/-- Of two elements one occurs first. -/
theorem Precedes.asymm {xs : List α} {a b : α} (hab : Precedes xs a b) : ¬ Precedes xs b a := by
  rintro ⟨before', after', hxs', hb, ha⟩
  obtain ⟨before, after, rfl, ha', hb'⟩ := hab
  -- of two beginnings of one list, one is a beginning of the other
  have hprefix := List.prefix_or_prefix_of_prefix ⟨after, rfl⟩ ⟨after', hxs'.symm⟩
  rcases hprefix with h | h
  · exact ha (h.subset ha')
  · exact hb' (h.subset hb)

/-- What a list keeps is preceded by what it gets to before. -/
theorem precedes_filterMap {β : Type} {g : β → Option α} {xs : List β} {a b : α} :
    Precedes (xs.filterMap g) a b ↔ ∃ before after, xs = before ++ after ∧
      a ∈ before.filterMap g ∧ b ∉ before.filterMap g := by
  constructor
  · rintro ⟨before, after, hxs, ha, hb⟩
    obtain ⟨xs₁, xs₂, rfl, rfl, rfl⟩ := List.filterMap_eq_append_iff.1 hxs
    exact ⟨xs₁, xs₂, rfl, ha, hb⟩
  · rintro ⟨before, after, rfl, ha, hb⟩
    exact ⟨before.filterMap g, after.filterMap g, List.filterMap_append, ha, hb⟩

variable [BEq α]

/-- A last element is added if it did not occur before. -/
theorem firstOccurrences_concat (xs : List α) (x : α) : firstOccurrences (xs ++ [x]) =
    if (firstOccurrences xs).contains x then firstOccurrences xs
    else firstOccurrences xs ++ [x] := by
  rw [firstOccurrences, List.foldl_append]
  rfl

variable [LawfulBEq α]

theorem mem_firstOccurrences {x : α} {xs : List α} : x ∈ firstOccurrences xs ↔ x ∈ xs := by
  induction xs using List.reverseRecOn with
  | nil => exact Iff.rfl
  | append_singleton xs y ih =>
    rw [firstOccurrences_concat]
    split_ifs with hy
    · have hmem : y ∈ firstOccurrences xs := List.contains_iff_mem.1 hy
      grind
    · grind

theorem nodup_firstOccurrences (xs : List α) : (firstOccurrences xs).Nodup := by
  induction xs using List.reverseRecOn with
  | nil => exact List.nodup_nil
  | append_singleton xs y ih =>
    rw [firstOccurrences_concat]
    split_ifs with hy
    · exact ih
    · rw [← List.concat_eq_append]
      exact ih.concat fun hmem => hy (List.contains_iff_mem.2 hmem)

/-- Elements are found in the order in which they first occur. -/
theorem pairwise_firstOccurrences (xs : List α) : (firstOccurrences xs).Pairwise (Precedes xs) := by
  induction xs using List.reverseRecOn with
  | nil => exact List.Pairwise.nil
  | append_singleton xs y ih =>
    have hkept : (firstOccurrences xs).Pairwise (Precedes (xs ++ [y])) :=
      ih.imp fun h => h.append [y]
    rw [firstOccurrences_concat]
    split_ifs with hy
    · exact hkept
    · rw [List.pairwise_append]
      refine ⟨hkept, List.pairwise_singleton _ y, fun a ha b hb => ?_⟩
      rw [List.mem_singleton.1 hb]
      refine ⟨xs, [y], rfl, mem_firstOccurrences.1 ha, fun hmem => hy ?_⟩
      rwa [List.contains_iff_mem, mem_firstOccurrences]

/-- The first occurrences are the elements of a list, each once, in the order in which the list gets to
them. -/
theorem eq_firstOccurrences_iff {xs ys : List α} : ys = firstOccurrences xs ↔
    ys.Nodup ∧ (∀ x, x ∈ ys ↔ x ∈ xs) ∧ ys.Pairwise (Precedes xs) := by
  constructor
  · rintro rfl
    exact ⟨nodup_firstOccurrences xs, fun x => mem_firstOccurrences, pairwise_firstOccurrences xs⟩
  · rintro ⟨hnodup, hmem, hpairwise⟩
    have hperm : ys.Perm (firstOccurrences xs) := by
      rw [List.perm_ext_iff_of_nodup hnodup (nodup_firstOccurrences xs)]
      intro x
      rw [hmem, mem_firstOccurrences]
    refine List.Perm.eq_of_pairwise (fun a b _ _ hab hba => ?_) hpairwise
      (pairwise_firstOccurrences xs) hperm
    exact absurd hba hab.asymm

end FirstOccurrences

end DatasetSql.Text
