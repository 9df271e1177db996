import DatasetSql.Proofs.Encoding
import DatasetSql.Toml.Basic
import Mathlib.Data.String.Basic

/-!
# Values in the order of their keys

A format whose tables have no order gives back the entries of every object by key. Such a value has
the same keys, the same nesting and the same entries as the one it came from, so the reader of
documents finds the same fields in it and equality of values does not tell the two apart.
-/

namespace DatasetSql

open Json (Data Value)

namespace Json

/-! ## Entries by key -/

/-- Puts an entry before the first one with a greater key. -/
def insertEntry {α : Type} (key : String) (value : α) : List (String × α) → List (String × α)
  | [] => [(key, value)]
  | (k, v) :: rest =>
    if key < k then (key, value) :: (k, v) :: rest else (k, v) :: insertEntry key value rest

/-- Entries in the order of their keys. -/
def byKey {α : Type} : List (String × α) → List (String × α)
  | [] => []
  | (k, v) :: es => insertEntry k v (byKey es)

/-- Whether entries stand in the order of their keys. -/
def InKeyOrder {α : Type} (es : List (String × α)) : Prop := (es.map (·.1)).Pairwise (· < ·)

variable {α β : Type}

/-- An entry is inserted without losing any other. -/
theorem insertEntry_perm (key : String) (value : α) (es : List (String × α)) :
    (insertEntry key value es).Perm ((key, value) :: es) := by
  induction es with
  | nil => exact .refl _
  | cons e es ih =>
    obtain ⟨k, v⟩ := e
    unfold insertEntry
    by_cases h : key < k
    · rw [if_pos h]
    · rw [if_neg h]
      exact (ih.cons (k, v)).trans (.swap _ _ _)

theorem byKey_perm (es : List (String × α)) : (byKey es).Perm es := by
  induction es with
  | nil => exact .refl _
  | cons e es ih => exact (insertEntry_perm e.1 e.2 (byKey es)).trans (ih.cons e)

theorem keys_byKey (es : List (String × α)) : ((byKey es).map (·.1)).Perm (es.map (·.1)) :=
  (byKey_perm es).map _

/-- A new key is inserted where it belongs. -/
theorem insertEntry_inKeyOrder {key : String} {value : α} {es : List (String × α)}
    (h : InKeyOrder es) (hnew : key ∉ es.map (·.1)) : InKeyOrder (insertEntry key value es) := by
  induction es with
  | nil => exact List.pairwise_singleton _ _
  | cons e es ih =>
    obtain ⟨k, v⟩ := e
    obtain ⟨hk, hes⟩ := List.pairwise_cons.1 h
    rw [List.map_cons, List.mem_cons, not_or] at hnew
    unfold insertEntry
    by_cases hlt : key < k
    · rw [if_pos hlt]
      refine List.pairwise_cons.2 ⟨?_, h⟩
      intro k' hk'
      rcases List.mem_cons.1 hk' with rfl | hlater
      · exact hlt
      · exact hlt.trans (hk k' hlater)
    · rw [if_neg hlt]
      refine List.pairwise_cons.2 ⟨?_, ih hes hnew.2⟩
      intro k' hk'
      -- what comes after is one of the old keys or the new one
      have hmem := ((insertEntry_perm key value es).map (·.1)).subset hk'
      rcases List.mem_cons.1 hmem with rfl | hlater
      · exact lt_of_le_of_ne (not_lt.1 hlt) (Ne.symm hnew.1)
      · exact hk k' hlater

/-- Entries with different keys are put in the order of their keys. -/
theorem byKey_inKeyOrder {es : List (String × α)} (h : (es.map (·.1)).Nodup) :
    InKeyOrder (byKey es) := by
  induction es with
  | nil => exact List.Pairwise.nil
  | cons e es ih =>
    obtain ⟨hnew, hnodup⟩ := List.nodup_cons.1 h
    exact insertEntry_inKeyOrder (ih hnodup) fun hmem => hnew ((keys_byKey es).subset hmem)

/-- Entries with distinct keys are unchanged exactly if they stand in order already. -/
theorem byKey_eq_self_iff {es : List (String × α)} (h : (es.map (·.1)).Nodup) :
    byKey es = es ↔ InKeyOrder es := by
  constructor
  · intro heq
    rw [← heq]
    exact byKey_inKeyOrder h
  · intro horder
    induction es with
    | nil => rfl
    | cons e es ih =>
      obtain ⟨hk, hes⟩ := List.pairwise_cons.1 horder
      rw [byKey, ih (List.nodup_cons.1 h).2 hes]
      -- the first key is below the next one
      cases es with
      | nil => rfl
      | cons e' es => exact if_pos (hk e'.1 List.mem_cons_self)

/-- The order of keys is that of the entries, however they stood before. -/
theorem byKey_congr {xs ys : List (String × α)} (h : xs.Perm ys) (hnodup : (xs.map (·.1)).Nodup) :
    byKey xs = byKey ys := by
  have hx := List.pairwise_map.1 (byKey_inKeyOrder hnodup)
  have hy := List.pairwise_map.1 (byKey_inKeyOrder (((h.map (·.1)).nodup_iff).1 hnodup))
  have hperm := (byKey_perm xs).trans (h.trans (byKey_perm ys).symm)
  exact hperm.eq_of_pairwise (fun _ _ _ _ hlt hgt => absurd hlt (lt_asymm hgt)) hx hy

/-- Entries that correspond are inserted at the same place. -/
theorem insertEntry_forall₂ {R : String × α → String × β → Prop}
    (hkey : ∀ e e', R e e' → e.1 = e'.1) {key : String} {value : α} {value' : β}
    (h : R (key, value) (key, value')) {es : List (String × α)} {es' : List (String × β)}
    (hes : List.Forall₂ R es es') :
    List.Forall₂ R (insertEntry key value es) (insertEntry key value' es') := by
  induction hes with
  | nil => exact .cons h .nil
  | @cons e e' es es' he hes ih =>
    obtain ⟨k, v⟩ := e
    obtain ⟨k', v'⟩ := e'
    cases hkey _ _ he
    unfold insertEntry
    by_cases hlt : key < k
    · rw [if_pos hlt, if_pos hlt]
      exact .cons h (.cons he hes)
    · rw [if_neg hlt, if_neg hlt]
      exact .cons he ih

/-- What holds of entries in pairs holds of them in order. -/
theorem byKey_forall₂ {R : String × α → String × β → Prop}
    (hkey : ∀ e e', R e e' → e.1 = e'.1) {es : List (String × α)} {es' : List (String × β)}
    (h : List.Forall₂ R es es') : List.Forall₂ R (byKey es) (byKey es') := by
  induction h with
  | nil => exact .nil
  | @cons e e' es es' he _ ih =>
    obtain ⟨k, v⟩ := e
    obtain ⟨k', v'⟩ := e'
    cases hkey _ _ he
    exact insertEntry_forall₂ hkey he ih

/-! ## Values -/

mutual

/-- A value with the entries of every object in the order of their keys. -/
def Value.ordered : Value → Value
  | .null => .null
  | .bool b => .bool b
  | .number n => .number n
  | .string s => .string s
  | .array xs => .array (orderedItems xs)
  | .object es => .object (orderedFields es)

/-- The items of an array, each in order. -/
def orderedItems : List Value → List Value
  | [] => []
  | x :: xs => x.ordered :: orderedItems xs

/-- The entries of an object in the order of their keys, and each value in order. -/
def orderedFields : List (String × Value) → List (String × Value)
  | [] => []
  | (k, v) :: es => insertEntry k v.ordered (orderedFields es)

end

theorem orderedItems_eq_map (xs : List Value) : orderedItems xs = xs.map Value.ordered := by
  induction xs with
  | nil => rfl
  | cons x xs ih => rw [orderedItems, ih, List.map_cons]

/-- The fields of an ordered object are its own, each ordered, in the order of their keys. -/
theorem orderedFields_eq_byKey (es : List (String × Value)) :
    orderedFields es = byKey (es.map fun e => (e.1, e.2.ordered)) := by
  induction es with
  | nil => rfl
  | cons e es ih =>
    obtain ⟨k, v⟩ := e
    rw [orderedFields, ih]
    rfl

theorem orderedFields_perm (es : List (String × Value)) :
    (orderedFields es).Perm (es.map fun e => (e.1, e.2.ordered)) := by
  rw [orderedFields_eq_byKey]
  exact byKey_perm _

/-- The same fields in another order give the same ordered object. -/
theorem orderedFields_congr {es es' : List (String × Value)} (h : es.Perm es')
    (hnodup : (es.map (·.1)).Nodup) : orderedFields es = orderedFields es' := by
  have hkeys : ((es.map fun e => (e.1, e.2.ordered)).map (·.1)).Nodup := by rwa [List.map_map]
  rw [orderedFields_eq_byKey, orderedFields_eq_byKey]
  exact byKey_congr (h.map _) hkeys

theorem keys_orderedFields (es : List (String × Value)) :
    ((orderedFields es).map (·.1)).Perm (es.map (·.1)) := by
  have h := (orderedFields_perm es).map (·.1)
  rwa [List.map_map] at h

theorem nodup_keys_orderedFields {es : List (String × Value)} :
    ((orderedFields es).map (·.1)).Nodup ↔ (es.map (·.1)).Nodup := (keys_orderedFields es).nodup_iff

/-- A key has the same value in another order. -/
theorem lookup_orderedFields {es : List (String × Value)} (h : (es.map (·.1)).Nodup)
    (key : String) : (orderedFields es).lookup key = (es.lookup key).map Value.ordered := by
  have hkeys : ((es.map fun e => (e.1, e.2.ordered)).map (·.1)).Nodup := by rwa [List.map_map]
  rw [lookup_perm (orderedFields_perm es) hkeys]
  exact lookup_map (f := id) (fun _ _ h => h) Value.ordered key es

/-- The keys inside of some fields are distinct exactly if they are in each. -/
theorem distinctFields_iff {es : List (String × Value)} :
    DistinctFields es ↔ ∀ e ∈ es, e.2.DistinctKeys := by
  induction es with
  | nil => exact iff_of_true trivial fun _ h => nomatch h
  | cons e es ih => rw [DistinctFields, ih, List.forall_mem_cons]

/-- An entry that is inserted anywhere makes the fields at least as deep as it is. -/
theorem depthFields_insertEntry (key : String) (v : Value) (es : List (String × Value)) :
    depthFields (insertEntry key v es) = max v.depth (depthFields es) := by
  induction es with
  | nil => rfl
  | cons e es ih =>
    obtain ⟨k, w⟩ := e
    unfold insertEntry
    by_cases h : key < k
    · rw [if_pos h]
      rfl
    · rw [if_neg h, depthFields, ih, depthFields]
      omega

mutual

/-- Keys that are distinct stay so in the order. -/
theorem Value.DistinctKeys.ordered : ∀ {v : Value}, v.DistinctKeys → v.ordered.DistinctKeys
  | .null, _ => trivial
  | .bool _, _ => trivial
  | .number _, _ => trivial
  | .string _, _ => trivial
  | .array _, h => distinctItems_ordered h
  | .object _, h => ⟨nodup_keys_orderedFields.2 h.1, distinctFields_ordered h.2⟩

theorem distinctItems_ordered : ∀ {xs : List Value}, DistinctItems xs →
    DistinctItems (orderedItems xs)
  | [], _ => trivial
  | _ :: _, h => ⟨h.1.ordered, distinctItems_ordered h.2⟩

theorem distinctFields_ordered : ∀ {es : List (String × Value)}, DistinctFields es →
    DistinctFields (orderedFields es)
  | [], _ => trivial
  | (k, v) :: es, h => by
    have hrest := distinctFields_iff.1 (distinctFields_ordered h.2)
    rw [orderedFields, distinctFields_iff]
    intro e he
    rcases List.mem_cons.1 ((insertEntry_perm k v.ordered _).subset he) with rfl | hmem
    · exact h.1.ordered
    · exact hrest e hmem

end

mutual

/-- The order changes no depth. -/
theorem Value.depth_ordered : ∀ v : Value, v.ordered.depth = v.depth
  | .null | .bool _ | .number _ | .string _ => rfl
  | .array xs => congrArg (· + 1) (depthItems_ordered xs)
  | .object es => congrArg (· + 1) (depthFields_ordered es)

theorem depthItems_ordered : ∀ xs : List Value, depthItems (orderedItems xs) = depthItems xs
  | [] => rfl
  | x :: xs => by rw [orderedItems, depthItems, depthItems, x.depth_ordered, depthItems_ordered xs]

theorem depthFields_ordered : ∀ es : List (String × Value),
    depthFields (orderedFields es) = depthFields es
  | [] => rfl
  | (k, v) :: es => by
    rw [orderedFields, depthFields_insertEntry, depthFields, v.depth_ordered,
      depthFields_ordered es]

end

theorem Number.same_self (n : Number) : n.same n = true := by
  cases n with
  | int i => exact beq_self_eq_true i
  | float x => exact beq_self_eq_true x.numerator

/-- Entries are the same in another list exactly if each is found there under its key, with the same
value. -/
theorem sameEntries_iff {xs ys : List (String × Value)} :
    sameEntries xs ys = true ↔ ∀ e ∈ xs, ∃ w, ys.lookup e.1 = some w ∧ e.2.same w = true := by
  induction xs with
  | nil => exact iff_of_true rfl fun _ h => nomatch h
  | cons e xs ih =>
    obtain ⟨k, v⟩ := e
    rw [sameEntries, Bool.and_eq_true, ih, List.forall_mem_cons]
    refine and_congr_left fun _ => ?_
    cases ys.lookup k with
    | none => simp
    | some w => simp

theorem lookup_of_mem {es : List (String × α)} (h : (es.map (·.1)).Nodup) {e : String × α}
    (hmem : e ∈ es) : es.lookup e.1 = some e.2 := by
  induction es with
  | nil => exact nomatch hmem
  | cons e' es ih =>
    obtain ⟨hnew, hnodup⟩ := List.nodup_cons.1 h
    rcases List.mem_cons.1 hmem with rfl | hlater
    · exact List.lookup_cons_self
    · have hne : e.1 ≠ e'.1 := by
        intro heq
        exact hnew (List.mem_map.2 ⟨e, hlater, heq⟩)
      rw [List.lookup_cons, beq_eq_false_iff_ne.2 hne]
      exact ih hnodup hlater

mutual

/-- Equality of values does not see the order of keys. -/
theorem Value.same_ordered : ∀ {v : Value}, v.DistinctKeys → v.ordered.same v = true
  | .null, _ => rfl
  | .bool b, _ => beq_self_eq_true b
  | .number n, _ => n.same_self
  | .string s, _ => beq_self_eq_true s
  | .array xs, h => sameItems_ordered h
  | .object es, h => by
    have hlength : (orderedFields es).length = es.length := by
      simpa using (orderedFields_perm es).length_eq
    have hentries := sameFields_ordered h.2
    rw [Value.ordered, Value.same, hlength, beq_self_eq_true, Bool.true_and, sameEntries_iff]
    intro e he
    obtain ⟨e', hmem, rfl⟩ := List.mem_map.1 ((orderedFields_perm es).subset he)
    exact ⟨e'.2, lookup_of_mem h.1 hmem, hentries e' hmem⟩

theorem sameItems_ordered : ∀ {xs : List Value}, DistinctItems xs →
    sameItems (orderedItems xs) xs = true
  | [], _ => rfl
  | x :: xs, h => by
    rw [orderedItems, sameItems, Value.same_ordered h.1, sameItems_ordered h.2]
    rfl

theorem sameFields_ordered : ∀ {es : List (String × Value)}, DistinctFields es →
    ∀ e ∈ es, e.2.ordered.same e.2 = true
  | [], _ => fun _ h => nomatch h
  | (_, _) :: _, h => List.forall_mem_cons.2 ⟨Value.same_ordered h.1, sameFields_ordered h.2⟩

end

end Json

/-- Seeing a value in the order of its keys is a way to see it. -/
theorem sees_ordered : Sees fun v => v.ordered.data where
  bool := fun _ => rfl
  number := fun _ => rfl
  string := fun _ => rfl
  array := fun xs => by
    show Data.list (Json.dataItems (Json.orderedItems xs)) = _
    rw [Json.dataItems_eq_map, Json.orderedItems_eq_map, List.map_map]
    rfl
  object := fun es => by
    have hperm := (Json.orderedFields_perm es).map fun e => (some e.1, e.2.data)
    rw [List.map_map] at hperm
    exact ⟨_, by rw [Value.ordered, Value.data, Json.dataFields_eq_map], hperm⟩

end DatasetSql
