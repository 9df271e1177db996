import DatasetSql.Proofs.Markers
import DatasetSql.Proofs.Settling

/-!
# Statements in the form of a dialect

What a conversion looks for at each node of a statement can be said without it: a delimiter of
another dialect, a function that goes by another name, a truth value where there are none, a page
window with a `LIMIT`, an offset without `ROWS` or without an order. A statement is in the form of a
dialect if it has none of these. A conversion gives a statement in that form and changes no statement
that is in it already, so converting twice is converting once.
-/

namespace DatasetSql

/-! ## Names of functions -/

/-- No dialect's name for a function is one that the dialect renames. -/
theorem Dialect.functionName?_of_mem_functionNames (d : Dialect) :
    ∀ p ∈ d.functionNames, d.functionName? p.2 = none := by
  cases d <;> decide +kernel

/-- A function that was renamed for a dialect is not renamed again. -/
theorem Dialect.functionName?_renamed {d : Dialect} {name renamed : String}
    (h : d.functionName? name = some renamed) : d.functionName? renamed = none := by
  obtain ⟨before, after, hsplit, -⟩ := List.lookup_eq_some_iff.1 h
  have hmem : (Text.upper name, renamed) ∈ d.functionNames := by
    rw [hsplit]
    simp
  exact d.functionName?_of_mem_functionNames (Text.upper name, renamed) hmem

namespace Statement

/-! ## The form of a dialect -/

/-- An identifier is bare, or in the delimiters of the dialect, or in none that a dialect has. -/
def Ident.InForm (d : Dialect) (i : Ident) : Prop :=
  ∀ q ∈ i.quote, q ∈ ['"', '`', '['] → q = d.quote

/-- An expression is no call of a function that has another name in the dialect, and no truth value
where the dialect writes numbers. -/
def Expr.InForm (d : Dialect) : Expr → Prop
  | .call [⟨name, none⟩] _ => d.functionName? name = none
  | .value (.boolean _) => d.numericBooleans = false
  | _ => True

/-- A query has a page window as the dialect writes it: with `LIMIT`, or else as an offset in rows and
a `FETCH`, and both behind an order and an offset where the dialect asks for them. -/
def Query.InForm (d : Dialect) : Query → Prop
  | .mk _ _ _ order limit offset unit _ fetch _ _ =>
    d.acceptsLimit = true ∨
      limit = none ∧ (offset.isSome → unit = .rows) ∧
        (d.orderedOffset = true → offset.isSome ∨ fetch.isSome → offset.isSome ∧ order ≠ [])

/-- A node is in the form of a dialect; a relation always is. -/
def Node.InForm (d : Dialect) : Node → Prop
  | .ident i => i.InForm d
  | .expr e => e.InForm d
  | .relation _ => True
  | .query q => q.InForm d

section

variable {d : Dialect}

/-- An identifier keeps its quotes exactly if they are those of the dialect. -/
theorem Ident.requoteFor_eq_self_iff {i : Ident} : i.requoteFor d = i ↔ i.InForm d := by
  obtain ⟨value, quote⟩ := i
  cases quote with
  | none => simp [Ident.requoteFor, Ident.InForm]
  | some q =>
    simp only [Ident.requoteFor, Ident.InForm, Option.mem_def, Option.some.injEq, forall_eq',
      List.mem_cons, List.not_mem_nil, or_false, Bool.or_eq_true, beq_iff_eq, or_assoc]
    split_ifs with hq
    · simp [hq, eq_comm]
    · simp [hq]

theorem Ident.inForm_requoteFor (i : Ident) : (i.requoteFor d).InForm d := by
  obtain ⟨value, quote⟩ := i
  cases quote with
  | none => simp [Ident.requoteFor, Ident.InForm]
  | some q =>
    simp only [Ident.requoteFor]
    split_ifs with hq
    · simp [Ident.InForm]
    · intro q' hq' hmem
      obtain rfl : q = q' := Option.some.inj hq'
      exact absurd (by simpa [or_assoc] using hmem) hq

/-- A function that has another name is renamed to one that has none. -/
theorem Expr.inForm_convertExpr (e : Expr) : (Conversion.convertExpr d e).InForm d := by
  unfold Conversion.convertExpr
  split
  next name tail =>
    split
    next renamed h => exact Dialect.functionName?_renamed h
    next h => exact h
  next b =>
    by_cases h : d.numericBooleans = true
    · rw [if_pos h]
      trivial
    · rw [if_neg h]
      exact Bool.eq_false_iff.2 h
  next hcall hboolean =>
    unfold Expr.InForm
    split
    · exact absurd rfl (hcall _ _)
    · exact absurd rfl (hboolean _)
    · trivial

/-- An expression in the form of the dialect stays as it is. -/
theorem Expr.convertExpr_of_inForm {e : Expr} (h : e.InForm d) : Conversion.convertExpr d e = e := by
  unfold Conversion.convertExpr
  split
  next name tail =>
    have hname : d.functionName? name = none := h
    simp only [hname]
  next b =>
    have hbooleans : d.numericBooleans = false := h
    rw [if_neg (by simp [hbooleans])]
  · rfl

/-- A converted query is in the form of the dialect. -/
theorem Query.inForm_convertQuery (q : Query) : (Conversion.convertQuery d q).InForm d := by
  obtain ⟨recursive, ctes, body, order, limit, offset, unit, detail, fetch, fetched, closing⟩ := q
  cases hd : d.acceptsLimit with
  | true =>
    rw [Conversion.convertQuery, if_pos hd]
    exact .inl hd
  | false =>
    rw [convertQuery_eq d hd]
    refine .inr ⟨rfl, fun hoffset => ?_, fun hordered hpaged => ?_⟩
    · generalize ((limit.isSome || fetch.isSome || offset.isSome) && d.orderedOffset) = pads at *
      cases pads <;> cases offset <;> simp at hoffset ⊢
    · -- a page window is there now only if it was there before, and then it was filled up
      have hpads : (limit.isSome || fetch.isSome || offset.isSome) = true := by
        cases limit <;> cases fetch <;> cases offset <;> simp at hpaged ⊢
      simp only [hpads, hordered, Bool.and_self, Bool.true_and]
      constructor
      · cases offset <;> simp
      · cases order <;> simp [Conversion.nullOrder]

/-- A query in the form of the dialect stays as it is. -/
theorem Query.convertQuery_of_inForm {q : Query} (h : q.InForm d) :
    Conversion.convertQuery d q = q := by
  obtain ⟨recursive, ctes, body, order, limit, offset, unit, detail, fetch, fetched, closing⟩ := q
  cases hd : d.acceptsLimit with
  | true => rw [Conversion.convertQuery, if_pos hd]
  | false =>
    obtain ⟨rfl, hrows, hordered⟩ := h.resolve_left (by simp [hd])
    rw [convertQuery_eq d hd]
    have hunit : (if offset.isSome then OffsetUnit.rows else unit) = unit := by
      split_ifs with hoffset
      · exact (hrows hoffset).symm
      · rfl
    cases hpads : (Option.isSome (none : Option Expr) || fetch.isSome || offset.isSome) &&
      d.orderedOffset with
    | false => simp [hunit]
    | true =>
      simp only [Option.isSome_none, Bool.false_or, Bool.and_eq_true, Bool.or_eq_true] at hpads
      obtain ⟨hoffset, horder⟩ := hordered hpads.2 (hpads.1.symm)
      simp [hoffset, horder, hrows hoffset]

/-- What the pass keeps is what is in form. -/
theorem converter_keeps_iff {n : Node} : (converter d).Keeps n ↔ n.InForm d := by
  cases n with
  | ident i => exact Ident.requoteFor_eq_self_iff
  | expr e =>
    refine ⟨fun h => ?_, Expr.convertExpr_of_inForm⟩
    rw [← show Conversion.convertExpr d e = e from h]
    exact Expr.inForm_convertExpr e
  | relation r => exact iff_of_true rfl trivial
  | query q =>
    refine ⟨fun h => ?_, Query.convertQuery_of_inForm⟩
    rw [← show Conversion.convertQuery d q = q from h]
    exact Query.inForm_convertQuery q

/-! ## A conversion settles -/

/-- Converting an expression leaves what is inside of it alone. -/
theorem Expr.nodes_convertExpr (e : Expr) :
    (Conversion.convertExpr d e).nodes = .expr (Conversion.convertExpr d e) :: e.nodes.tail := by
  have hnodes (e : Expr) : e.nodes = .expr e :: e.nodes.tail := by
    cases e <;> rfl
  unfold Conversion.convertExpr
  split
  next name tail =>
    split
    · rfl
    · rfl
  next b =>
    by_cases h : d.numericBooleans = true
    · rw [if_pos h]
      rfl
    · rw [if_neg h]
      rfl
  next => exact hnodes e

/-- The order that is filled in says nothing that a conversion looks for. -/
theorem converter_keeps_nullOrder : (converter d).KeepsAll (phraseNodes Conversion.nullOrder) := by
  intro n hn
  rw [converter_keeps_iff]
  simp only [Conversion.nullOrder, phraseNodes, Part.nodes, Expr.nodes, Query.nodes, cteNodes,
    Body.nodes, Select.nodes, itemNodes, sourceNodes, exprNodes?, identNodes, List.map_nil,
    Option.toList_none, List.append_nil, List.nil_append, List.mem_cons, List.not_mem_nil,
    or_false] at hn
  rcases hn with rfl | rfl | rfl
  · trivial
  · exact .inr ⟨rfl, by simp, by simp⟩
  · trivial

/-- The nodes that a conversion adds to a query are in the form of the dialect. -/
theorem converter_keeps_query (q : Query) (h : (converter d).KeepsAll q.nodes.tail) :
    (converter d).KeepsAll (Conversion.convertQuery d q).nodes := by
  have hform := converter_keeps_iff.2 (show (Node.query _).InForm d from q.inForm_convertQuery)
  obtain ⟨recursive, ctes, body, order, limit, offset, unit, detail, fetch, fetched, closing⟩ := q
  simp only [Query.nodes, List.tail_cons, Pass.keepsAll_append] at h
  obtain ⟨⟨⟨⟨⟨⟨hctes, hbody⟩, horder⟩, hlimit⟩, hoffset⟩, hdetail⟩, hfetched⟩ := h
  cases hd : d.acceptsLimit with
  | true =>
    rw [Conversion.convertQuery, if_pos hd] at hform ⊢
    simp only [Query.nodes, Pass.keepsAll_cons, Pass.keepsAll_append]
    exact ⟨hform, ⟨⟨⟨⟨⟨hctes, hbody⟩, horder⟩, hlimit⟩, hoffset⟩, hdetail⟩, hfetched⟩
  | false =>
    rw [convertQuery_eq d hd] at hform ⊢
    -- it does not matter here when an order and an offset are put in
    generalize ((limit.isSome || fetch.isSome || offset.isSome) && d.orderedOffset) = pads at *
    simp only [Query.nodes, Pass.keepsAll_cons, Pass.keepsAll_append]
    refine ⟨hform, ⟨⟨⟨⟨⟨hctes, hbody⟩, ?_⟩, Pass.keepsAll_nil⟩, ?_⟩, hdetail⟩, ?_⟩
    · split_ifs
      · exact converter_keeps_nullOrder
      · exact horder
    · split_ifs
      · exact Pass.keepsAll_cons.2 ⟨rfl, Pass.keepsAll_nil⟩
      · exact hoffset
    · split_ifs
      · exact hlimit
      · exact hfetched

/-- A conversion settles: what it puts down needs no further one. -/
theorem converter_settles (d : Dialect) : (converter d).Settles where
  ident i := Ident.requoteFor_eq_self_iff.2 i.inForm_requoteFor
  expr e h := by
    show (converter d).KeepsAll (Conversion.convertExpr d e).nodes
    rw [Expr.nodes_convertExpr, Pass.keepsAll_cons]
    exact ⟨converter_keeps_iff.2 e.inForm_convertExpr, h⟩
  relation r h := by
    cases r <;> exact Pass.keepsAll_cons.2 ⟨rfl, h⟩
  query q h := converter_keeps_query q h

end

end Statement

open Statement

/-- Whether every node of a statement is in the form of a dialect. -/
def Statement.InForm (d : Dialect) (s : Statement) : Prop := ∀ n ∈ s.nodes, n.InForm d

theorem Statement.inForm_converted (d : Dialect) (s : Statement) : (s.converted d).InForm d := by
  intro n hn
  rw [Statement.converted_eq_pass] at hn
  exact converter_keeps_iff.1 (Statement.keeps_pass (converter_settles d) s n hn)

theorem Statement.converted_of_inForm {d : Dialect} {s : Statement} (h : s.InForm d) :
    s.converted d = s := by
  rw [Statement.converted_eq_pass]
  exact Statement.pass_eq_self fun n hn => converter_keeps_iff.2 (h n hn)

/-- For every statement and every dialect, converting what was converted changes nothing. The result
is in the form of the dialect, and the statements in that form are the only ones that a conversion
leaves as they are. -/
theorem Statement.converted_idempotent (d : Dialect) (s : Statement) :
    (s.converted d).converted d = s.converted d ∧ (s.converted d).InForm d ∧
      (s.converted d = s ↔ s.InForm d) := by
  have hform := Statement.inForm_converted d s
  refine ⟨Statement.converted_of_inForm hform, hform, fun h => ?_, Statement.converted_of_inForm⟩
  rw [← h]
  exact hform

end DatasetSql
