import DatasetSql.Proofs.Markers
import Mathlib.Data.List.Perm.Subperm

/-!
# Markers in page windows

Writing limits as `FETCH` counts moves the markers of a limit behind those of the offset, and drops
the markers of a `FETCH` count that was there before. No other order of writing changes. So the
markers of a statement keep their order exactly if no query of it has markers on both sides of such
a move and none has any to drop (`Statement.numbers_eq_iff`).
-/

namespace DatasetSql.Statement

/-- The queries of a statement that are written. -/
def writtenQueries : Gathering Query where
  name _ := []
  window q limit offset detail fetched :=
    q :: (limit ++ offset ++ detail ++ if q.fetches then fetched else [])

/-- A query keeps the order of its markers if it has no limit, or if a `FETCH` for its limit pushes no
marker out and passes none. -/
def Query.KeepsOrder (L : Labels) : Query → Prop
  | .mk _ _ _ _ limit offset _ detail fetch fetched _ =>
    limit = none ∨
      (fetch.isSome → gatherExpr? (L.numbering false) fetched = []) ∧
        (gatherExpr? (L.numbering false) limit = [] ∨
          gatherExpr? (L.numbering false) offset ++ gatherPhrase (L.numbering false) detail = [])

/-- Of the numbers `ks`, which are written without `FETCH` for limits, `ks'` are left with it; if
nothing occurs twice, they are all there and in the same order exactly if all of these queries keep
the order of their markers. -/
structure Moved (L : Labels) (ks' ks : List Nat) (qs : List Query) : Prop where
  subperm : List.Subperm ks' ks
  eq_iff : ks.Nodup → (ks' = ks ↔ ∀ q ∈ qs, q.KeepsOrder L)

namespace Moved

variable {L : Labels} {ks ks' ls ls' ms ms' : List Nat} {qs rs ts : List Query}

theorem refl (ks : List Nat) : Moved L ks ks [] where
  subperm := .refl ks
  eq_iff _ := by simp

/-- Two lists that are left over make up the whole only if each does. -/
theorem append_eq_iff (hks : List.Subperm ks' ks) (hls : List.Subperm ls' ls) :
    ks' ++ ls' = ks ++ ls ↔ ks' = ks ∧ ls' = ls := by
  constructor
  · intro h
    have hlength := congrArg List.length h
    rw [List.length_append, List.length_append] at hlength
    have hk := hks.length_le
    have hl := hls.length_le
    exact List.append_inj h (by omega)
  · rintro ⟨rfl, rfl⟩
    rfl

/-- Numbers with others behind them are moved as both are. -/
theorem append (hk : Moved L ks' ks qs) (hl : Moved L ls' ls rs) :
    Moved L (ks' ++ ls') (ks ++ ls) (qs ++ rs) where
  subperm := hk.subperm.append hl.subperm
  eq_iff hnodup := by
    rw [List.nodup_append] at hnodup
    rw [append_eq_iff hk.subperm hl.subperm, hk.eq_iff hnodup.1, hl.eq_iff hnodup.2.1,
      List.forall_mem_append]

/-- One more query that keeps its order. -/
theorem cons {q : Query} (hq : q.KeepsOrder L) (hk : Moved L ks' ks qs) :
    Moved L ks' ks (q :: qs) where
  subperm := hk.subperm
  eq_iff hnodup := by
    rw [hk.eq_iff hnodup, List.forall_mem_cons]
    exact (and_iff_right hq).symm

/-- What stands at the front cannot come from both of two parts that have nothing in common. -/
theorem eq_nil_of_swap (hnodup : (ks ++ ls).Nodup) (hks : ks'.Perm ks) (hls : ls'.Perm ls)
    (h : ls' ++ ks' = ks ++ ls) : ks = [] ∨ ls = [] := by
  cases ks with
  | nil => exact .inl rfl
  | cons k ks =>
    refine .inr ?_
    cases ls' with
    | nil => exact hls.symm.eq_nil
    | cons l ls' =>
      have hkl : l = k := (List.cons.inj h).1
      have hmem : l ∈ ls := hls.subset List.mem_cons_self
      have hdisjoint := (List.nodup_append.1 hnodup).2.2
      exact absurd hkl.symm (hdisjoint k List.mem_cons_self l hmem)

/-- A limit that is written behind the offset, in the place of what is dropped. -/
theorem swap {q : Query} {us us' : List Nat} {vs : List Query}
    (hq : q.KeepsOrder L ↔ us = [] ∧ (ks = [] ∨ ls = [])) (hk : Moved L ks' ks qs)
    (hl : Moved L ls' ls rs) (hu : Moved L us' us vs) :
    Moved L (ls' ++ ks') (ks ++ ls ++ us) (q :: (qs ++ rs ++ vs)) where
  subperm := by
    have hsub : List.Subperm (ls' ++ ks') (ks ++ ls) :=
      (hl.subperm.append hk.subperm).trans List.perm_append_comm.subperm
    exact hsub.trans (List.sublist_append_left (ks ++ ls) us).subperm
  eq_iff hnodup := by
    obtain ⟨hkl, hnodupu, -⟩ := List.nodup_append.1 hnodup
    obtain ⟨hnodupk, hnodupl, -⟩ := List.nodup_append.1 hkl
    rw [List.forall_mem_cons, List.forall_mem_append, List.forall_mem_append, hq,
      ← hk.eq_iff hnodupk, ← hl.eq_iff hnodupl, ← hu.eq_iff hnodupu]
    constructor
    · intro h
      -- the lengths leave no room for what is dropped
      have hlength := congrArg List.length h
      simp only [List.length_append] at hlength
      have hk' := hk.subperm.length_le
      have hl' := hl.subperm.length_le
      have hus : us = [] := List.eq_nil_of_length_eq_zero (by omega)
      have hkperm := hk.subperm.perm_of_length_le (by omega)
      have hlperm := hl.subperm.perm_of_length_le (by omega)
      have hus' : us' = [] := List.subperm_nil.1 (hus ▸ hu.subperm)
      rw [hus, List.append_nil] at h
      have hempty := eq_nil_of_swap hkl hkperm hlperm h
      have hboth : ks' = ks ∧ ls' = ls := by
        rcases hempty with rfl | rfl
        · rw [hkperm.eq_nil] at h ⊢
          simpa using h
        · rw [hlperm.eq_nil] at h ⊢
          simpa using h
      exact ⟨⟨hus, hempty⟩, hboth, by rw [hus, hus']⟩
    · rintro ⟨⟨hus, hempty⟩, ⟨hks, hls⟩, -⟩
      rw [hks, hls, hus, List.append_nil]
      rcases hempty with rfl | rfl
      · simp
      · simp

/-- What is written under a condition. -/
theorem onlyIf (condition : Bool) (hk : Moved L ks' ks qs) :
    Moved L (if condition then ks' else []) (if condition then ks else [])
      (if condition then qs else []) := by
  cases condition with
  | true => exact hk
  | false => exact refl []

end Moved

section Induction

variable {L : Labels}

/-- A query moves the numbers of its limit behind those of its offset; nothing else changes its
place. -/
theorem moved_query {recursive : Bool} {ctes : List Cte} {body : Body} {order : List Part}
    {limit offset : Option Expr} {unit : OffsetUnit} {detail : List Part}
    {fetch : Option FetchStyle} {fetched : Option Expr} {closing : String}
    (hctes : Moved L (gatherCtes (L.numbering true) ctes) (gatherCtes (L.numbering false) ctes)
      (gatherCtes writtenQueries ctes))
    (hbody : Moved L (body.gather (L.numbering true)) (body.gather (L.numbering false))
      (body.gather writtenQueries))
    (horder : Moved L (gatherPhrase (L.numbering true) order)
      (gatherPhrase (L.numbering false) order) (gatherPhrase writtenQueries order))
    (hlimit : Moved L (gatherExpr? (L.numbering true) limit)
      (gatherExpr? (L.numbering false) limit) (gatherExpr? writtenQueries limit))
    (hoffset : Moved L (gatherExpr? (L.numbering true) offset)
      (gatherExpr? (L.numbering false) offset) (gatherExpr? writtenQueries offset))
    (hdetail : Moved L (gatherPhrase (L.numbering true) detail)
      (gatherPhrase (L.numbering false) detail) (gatherPhrase writtenQueries detail))
    (hfetched : Moved L (gatherExpr? (L.numbering true) fetched)
      (gatherExpr? (L.numbering false) fetched) (gatherExpr? writtenQueries fetched)) :
    let q := Query.mk recursive ctes body order limit offset unit detail fetch fetched closing
    Moved L (q.gather (L.numbering true)) (q.gather (L.numbering false))
      (q.gather writtenQueries) := by
  intro q
  have hfront := (hctes.append hbody).append horder
  have hcount := hfetched.onlyIf fetch.isSome
  have hq : q.gather writtenQueries = gatherCtes writtenQueries ctes ++ body.gather writtenQueries ++
      gatherPhrase writtenQueries order ++ q :: (gatherExpr? writtenQueries limit ++
        gatherExpr? writtenQueries offset ++ gatherPhrase writtenQueries detail ++
        if fetch.isSome then gatherExpr? writtenQueries fetched else []) := rfl
  rw [hq, gather_numbering, gather_numbering]
  cases limit with
  | none =>
    -- without a limit both orders are the same
    have hwindow := ((hlimit.append hoffset).append hdetail).append hcount
    exact hfront.append (.cons (.inl rfl) hwindow)
  | some n =>
    have hkeeps : q.KeepsOrder L ↔
        (if fetch.isSome then gatherExpr? (L.numbering false) fetched else []) = [] ∧
          (gatherExpr? (L.numbering false) (some n) = [] ∨
            gatherExpr? (L.numbering false) offset ++ gatherPhrase (L.numbering false) detail = []) := by
      show (some n = none ∨ _) ↔ _
      cases fetch <;> simp
    have h := Moved.swap hkeeps hlimit (hoffset.append hdetail) hcount
    simpa only [Bool.true_and, Bool.false_and, Option.isSome_some, if_true, Bool.false_eq_true,
      if_false, List.append_assoc] using hfront.append h

-- Only the page window of a query is written in two orders; all other cases join what their
-- children give.
mutual

/-- The numbers of a part are moved as those of the queries inside of it. -/
theorem Part.moved : ∀ x : Part,
    Moved L (x.gather (L.numbering true)) (x.gather (L.numbering false)) (x.gather writtenQueries)
  | .words _ => .refl []
  | .literal _ => .refl []
  | .expr e => Expr.moved e
  | .query q => Query.moved q
  | .source s => Source.moved s
  | .late ps => moved_phrase ps

theorem moved_phrase : ∀ ps : List Part,
    Moved L (gatherPhrase (L.numbering true) ps) (gatherPhrase (L.numbering false) ps)
      (gatherPhrase writtenQueries ps)
  | [] => .refl []
  | x :: ps => (Part.moved x).append (moved_phrase ps)

/-- The numbers of an expression are moved as those of its queries. -/
theorem Expr.moved : ∀ e : Expr,
    Moved L (e.gather (L.numbering true)) (e.gather (L.numbering false)) (e.gather writtenQueries)
  | .ident i => .refl (L.number? i).toList
  | .compound _ => .refl []
  | .value _ => .refl []
  | .call _ tail => moved_phrase tail
  | .binary l _ r => (Expr.moved l).append (Expr.moved r)
  | .subquery q => Query.moved q
  | .form _ ps => moved_phrase ps

theorem moved_expr? : ∀ e : Option Expr,
    Moved L (gatherExpr? (L.numbering true) e) (gatherExpr? (L.numbering false) e)
      (gatherExpr? writtenQueries e)
  | none => .refl []
  | some e => Expr.moved e

/-- The numbers of a query are moved as its parts are, and its own window. -/
theorem Query.moved : ∀ q : Query,
    Moved L (q.gather (L.numbering true)) (q.gather (L.numbering false)) (q.gather writtenQueries)
  | .mk _ ctes body order limit offset _ detail _ fetched _ =>
    moved_query (moved_ctes ctes) (Body.moved body) (moved_phrase order) (moved_expr? limit)
      (moved_expr? offset) (moved_phrase detail) (moved_expr? fetched)

theorem moved_ctes : ∀ ctes : List Cte,
    Moved L (gatherCtes (L.numbering true) ctes) (gatherCtes (L.numbering false) ctes)
      (gatherCtes writtenQueries ctes)
  | [] => .refl []
  | .mk _ _ q _ :: ctes => (Query.moved q).append (moved_ctes ctes)

theorem Body.moved : ∀ b : Body,
    Moved L (b.gather (L.numbering true)) (b.gather (L.numbering false)) (b.gather writtenQueries)
  | .select s => Select.moved s
  | .query q => Query.moved q
  | .setOperation l _ r => (Body.moved l).append (Body.moved r)
  | .phrase ps => moved_phrase ps

theorem Select.moved : ∀ s : Select,
    Moved L (s.gather (L.numbering true)) (s.gather (L.numbering false)) (s.gather writtenQueries)
  | .mk opening items _ sources clauses =>
    (((moved_phrase opening).append (moved_items items)).append (moved_sources sources)).append
      (moved_phrase clauses)

theorem moved_items : ∀ items : List (Expr × Option Ident),
    Moved L (gatherItems (L.numbering true) items) (gatherItems (L.numbering false) items)
      (gatherItems writtenQueries items)
  | [] => .refl []
  | (e, _) :: items => (Expr.moved e).append (moved_items items)

theorem moved_sources : ∀ ss : List Source,
    Moved L (gatherSources (L.numbering true) ss) (gatherSources (L.numbering false) ss)
      (gatherSources writtenQueries ss)
  | [] => .refl []
  | s :: ss => (Source.moved s).append (moved_sources ss)

theorem Source.moved : ∀ s : Source,
    Moved L (s.gather (L.numbering true)) (s.gather (L.numbering false)) (s.gather writtenQueries)
  | .mk relation joins => (Relation.moved relation).append (moved_joins joins)

theorem Relation.moved : ∀ r : Relation,
    Moved L (r.gather (L.numbering true)) (r.gather (L.numbering false)) (r.gather writtenQueries)
  | .table _ _ detail _ tail => (moved_phrase detail).append (moved_phrase tail)
  | .derived _ q _ => Query.moved q
  | .nested source _ => Source.moved source
  | .form ps _ _ => moved_phrase ps

theorem moved_joins : ∀ js : List Join,
    Moved L (gatherJoins (L.numbering true) js) (gatherJoins (L.numbering false) js)
      (gatherJoins writtenQueries js)
  | [] => .refl []
  | .mk _ relation condition :: js =>
    ((Relation.moved relation).append (moved_phrase condition)).append (moved_joins js)

end

end Induction

end DatasetSql.Statement

namespace DatasetSql

open Statement

/-- The markers of a statement keep their order exactly if each query that is written keeps its
own. -/
theorem Statement.moved (L : Labels) (s : Statement) :
    Moved L (s.numbers L true) (s.numbers L false) (s.gather writtenQueries) := by
  cases s with
  | query q => exact Query.moved q
  | command ps => exact moved_phrase ps

end DatasetSql
