import Mathlib.Data.List.Forall2

/-!
# Outcomes

A computation in steps succeeds exactly if each step does, and fails as the first step that does not.
-/

namespace DatasetSql

variable {ε α β : Type}

/-- Two steps give a result exactly if the first gives something of which the second makes it. -/
theorem bind_eq_ok {x : Except ε α} {f : α → Except ε β} {b : β} :
    x >>= f = .ok b ↔ ∃ a, x = .ok a ∧ f a = .ok b := by
  constructor
  · intro h
    cases x with
    | error e => exact nomatch h
    | ok a => exact ⟨a, rfl, h⟩
  · rintro ⟨a, rfl, h⟩
    exact h

theorem mapError_eq_ok {ε' : Type} {x : Except ε α} {f : ε → ε'} {a : α} :
    x.mapError f = .ok a ↔ x = .ok a := by
  cases x with
  | error e => simp [Except.mapError]
  | ok b => simp [Except.mapError]

theorem map_fst_eq_ok {x : Except ε (α × β)} {a : α} :
    x.map (·.1) = .ok a ↔ ∃ b, x = .ok (a, b) := by
  cases x with
  | error e => simp [Except.map]
  | ok found => simp [Except.map, Prod.ext_iff]

theorem toOption_eq_some {x : Except ε α} {a : α} : x.toOption = some a ↔ x = .ok a := by
  cases x with
  | error e => simp [Except.toOption]
  | ok b => simp [Except.toOption]

theorem bind_unit_eq_ok {x : Except ε Unit} {y : Except ε β} {b : β} :
    (x >>= fun _ => y) = .ok b ↔ x = .ok () ∧ y = .ok b := by
  rw [bind_eq_ok]
  exact ⟨fun ⟨_, hx, hy⟩ => ⟨hx, hy⟩, fun ⟨hx, hy⟩ => ⟨(), hx, hy⟩⟩

/-- A check of all elements passes exactly if each of them passes. -/
theorem forM_eq_ok {f : α → Except ε Unit} {xs : List α} :
    xs.forM f = .ok () ↔ ∀ x ∈ xs, f x = .ok () := by
  induction xs with
  | nil => exact iff_of_true rfl fun x hx => nomatch hx
  | cons x xs ih =>
    rw [List.forM_eq_forM, List.forM_cons, bind_unit_eq_ok, ← List.forM_eq_forM, ih,
      List.forall_mem_cons]

/-- Results of all elements are given exactly if each element gives its own. -/
theorem mapM_eq_ok {f : α → Except ε β} {xs : List α} {ys : List β} :
    xs.mapM f = .ok ys ↔ List.Forall₂ (fun x y => f x = .ok y) xs ys := by
  induction xs generalizing ys with
  | nil =>
    rw [List.mapM_nil, List.forall₂_nil_left_iff]
    exact ⟨fun h => (Except.ok.inj h).symm, fun h => by rw [h]; rfl⟩
  | cons x xs ih =>
    rw [List.mapM_cons, bind_eq_ok, List.forall₂_cons_left_iff]
    constructor
    · rintro ⟨y, hy, h⟩
      obtain ⟨rest, hrest, h⟩ := bind_eq_ok.1 h
      cases h
      exact ⟨y, rest, hy, ih.1 hrest, rfl⟩
    · rintro ⟨y, rest, hy, hrest, rfl⟩
      exact ⟨y, hy, bind_eq_ok.2 ⟨rest, ih.2 hrest, rfl⟩⟩

/-- The first element at which a computation fails is where a run over a list fails. -/
theorem mapM_eq_error {f : α → Except ε β} {xs : List α} {e : ε} :
    xs.mapM f = .error e ↔ ∃ before x after, xs = before ++ x :: after ∧
      (∀ y ∈ before, ∃ b, f y = .ok b) ∧ f x = .error e := by
  induction xs with
  | nil =>
    refine iff_of_false (fun h => nomatch h) ?_
    rintro ⟨before, x, after, h, -⟩
    simp at h
  | cons x xs ih =>
    rw [List.mapM_cons]
    cases hx : f x with
    | error e' =>
      constructor
      · intro h
        cases h
        exact ⟨[], x, xs, rfl, List.forall_mem_nil _, hx⟩
      · rintro ⟨before, x', after, h, hbefore, he⟩
        -- nothing before the failure succeeded, as the first element fails
        cases before with
        | nil =>
          cases h
          rw [hx] at he
          cases he
          rfl
        | cons y before =>
          cases h
          obtain ⟨b, hb⟩ := hbefore x List.mem_cons_self
          exact nomatch hx.symm.trans hb
    | ok b =>
      have hrest : (do return b :: (← xs.mapM f)) = Except.error e ↔ xs.mapM f = .error e := by
        cases xs.mapM f with
        | error e' => rfl
        | ok ys => exact iff_of_false (fun h => nomatch h) fun h => nomatch h
      refine Iff.trans hrest (ih.trans ?_)
      constructor
      · rintro ⟨before, x', after, rfl, hbefore, he⟩
        exact ⟨x :: before, x', after, rfl, List.forall_mem_cons.2 ⟨⟨b, hx⟩, hbefore⟩, he⟩
      · rintro ⟨before, x', after, h, hbefore, he⟩
        cases before with
        | nil =>
          cases h
          exact nomatch hx.symm.trans he
        | cons y before =>
          cases h
          exact ⟨before, x', after, rfl, (List.forall_mem_cons.1 hbefore).2, he⟩

/-- Each result is that of an element. -/
theorem mem_of_mapM_eq_ok {f : α → Except ε β} {xs : List α} {ys : List β}
    (h : xs.mapM f = .ok ys) {y : β} : y ∈ ys ↔ ∃ x ∈ xs, f x = .ok y := by
  have hall := mapM_eq_ok.1 h
  clear h
  induction hall with
  | nil => simp
  | @cons x y' xs ys hx _ ih =>
    have hhead : y = y' ↔ f x = .ok y := by rw [hx, Except.ok.injEq, eq_comm]
    simp only [List.mem_cons, ih, hhead, exists_eq_or_imp]

/-- Every member of a list is related to something exactly if the list is related to a list. -/
theorem exists_forall₂_iff {R : α → β → Prop} {xs : List α} :
    (∃ ys, List.Forall₂ R xs ys) ↔ ∀ x ∈ xs, ∃ y, R x y := by
  induction xs with
  | nil => exact iff_of_true ⟨[], .nil⟩ fun x hx => nomatch hx
  | cons x xs ih =>
    rw [List.forall_mem_cons, ← ih]
    constructor
    · rintro ⟨_, _ | ⟨hy, hys⟩⟩
      exact ⟨⟨_, hy⟩, _, hys⟩
    · rintro ⟨⟨y, hy⟩, ys, hys⟩
      exact ⟨y :: ys, .cons hy hys⟩

/-- A traversal succeeds if each step does, and keeps what is known of each. -/
theorem exists_mapM_eq_ok {f : α → Except ε β} {R : α → β → Prop} {xs : List α}
    (h : ∀ x ∈ xs, ∃ y, f x = .ok y ∧ R x y) :
    ∃ ys, xs.mapM f = .ok ys ∧ List.Forall₂ R xs ys := by
  obtain ⟨ys, hys⟩ := exists_forall₂_iff.2 h
  exact ⟨ys, mapM_eq_ok.2 (hys.imp fun x y hxy => hxy.1), hys.imp fun x y hxy => hxy.2⟩

/-- A guard succeeds where its condition fails. -/
theorem guard_eq_ok {c : Prop} [Decidable c] {e : ε} {y : Except ε β} {b : β} :
    (if c then .error e else y) = .ok b ↔ ¬ c ∧ y = .ok b := by
  by_cases hc : c
  · rw [if_pos hc]
    exact iff_of_false (fun h => nomatch h) fun h => h.1 hc
  · rw [if_neg hc]
    exact (and_iff_right hc).symm

/-- A step that is taken on a condition only. -/
theorem when_eq_ok {c : Prop} [Decidable c] {x : Except ε Unit} {y : Except ε β} {b : β} :
    (if c then x >>= fun _ => y else y) = .ok b ↔ (c → x = .ok ()) ∧ y = .ok b := by
  by_cases hc : c
  · rw [if_pos hc, bind_unit_eq_ok]
    exact and_congr_left fun _ => (imp_iff_right hc).symm
  · rw [if_neg hc]
    exact (and_iff_right fun h => absurd h hc).symm

end DatasetSql
