import DatasetSql.Edit.Conversion
import DatasetSql.Proofs.Reworking
import Mathlib.Tactic.SplitIfs

/-!
# Windows keep their rows

A dialect without `LIMIT` has each query take its rows with `FETCH` instead, as many as the limit said
or else as the query fetched before, from the same offset. Where an offset must follow an order, a
query that takes some of its rows gets both, if it has none: an offset of no rows, and an order that
says nothing. A conversion does so to every query of a statement, at any depth, and all that it does
else is to rename functions and to spell truth values.
-/

namespace DatasetSql

namespace Statement

/-! ## Windows -/

/-- Which rows a query takes, and in which order they are counted. -/
structure Window where
  order : Phrase
  limit : Option Expr
  offset : Option Expr
  unit : OffsetUnit
  fetch : Option FetchStyle
  fetched : Option Expr

/-- The window of a query. -/
def Query.window : Query → Window
  | .mk _ _ _ order limit offset unit _ fetch fetched _ =>
    ⟨order, limit, offset, unit, fetch, fetched⟩

/-- A query with another window. -/
def Query.withWindow (w : Window) : Query → Query
  | .mk recursive ctes body _ _ _ _ detail _ _ closing =>
    .mk recursive ctes body w.order w.limit w.offset w.unit detail w.fetch w.fetched closing

namespace Window

/-- A window takes some of the rows only. -/
def IsPaged (w : Window) : Prop := w.limit.isSome ∨ w.fetch.isSome ∨ w.offset.isSome

/-- The second window takes the rows of the first without a limit. Where an offset must follow an
order, it has both if it takes some of the rows only. -/
structure Fetches (ordered : Bool) (w w' : Window) : Prop where
  noLimit : w'.limit = none
  ofLimit : ∀ n, w.limit = some n → w'.fetch = some {} ∧ w'.fetched = some n
  ofFetch : w.limit = none → w'.fetch = w.fetch ∧ w'.fetched = w.fetched
  offset : ∀ n, w.offset = some n → w'.offset = some n ∧ w'.unit = .rows
  noOffset : w.offset = none → ∀ n, w'.offset = some n →
    n = .value (.number "0" false) ∧ w'.unit = .rows
  unit : w'.offset = none → w'.unit = w.unit
  paged : ordered = true → (w'.offset.isSome ↔ w.IsPaged)
  unpaged : ordered = false → (w'.offset.isSome ↔ w.offset.isSome)
  sorted : ordered = true → w'.offset.isSome → w'.order ≠ []
  order : w.order ≠ [] → w'.order = w.order
  noOrder : w.order = [] →
    w'.order = [] ∨ ordered = true ∧ w'.offset.isSome ∧ w'.order = Conversion.nullOrder

end Window

/-! ## What takes the place of a node -/

/-- A query takes the same rows, as a dialect writes it: with its own window, or without a limit. -/
inductive Query.Windowed (d : Dialect) : Query → Query → Prop
  | kept (h : d.acceptsLimit = true) (q : Query) : Query.Windowed d q q
  | fetched (h : d.acceptsLimit = false) {q : Query} {w : Window}
    (hw : q.window.Fetches d.orderedOffset w) : Query.Windowed d q (q.withWindow w)

/-- An expression as a dialect writes it: a function has its name there, and a truth value is a number
where there are none. All else is as it was. -/
inductive Expr.Converted (d : Dialect) : Expr → Expr → Prop
  | renamed {name renamed : String} (h : d.functionName? name = some renamed) (tail : List Part) :
    Expr.Converted d (.call [⟨name, none⟩] tail) (.call [⟨renamed, none⟩] tail)
  | boolean (h : d.numericBooleans = true) (b : Bool) :
    Expr.Converted d (.value (.boolean b)) (.value (.number (if b then "1" else "0") false))
  | same (e : Expr)
    (hname : ∀ name tail, e = .call [⟨name, none⟩] tail → d.functionName? name = none)
    (hboolean : ∀ b, e = .value (.boolean b) → d.numericBooleans = false) : Expr.Converted d e e

/-- What a conversion puts in place of expressions and queries. -/
def conversion (d : Dialect) : Rework where
  expr := Expr.Converted d
  query := Query.Windowed d

section

variable (d : Dialect)

/-- An expression is converted by its own change alone. -/
theorem Expr.converted_convertExpr (e : Expr) : e.Converted d (Conversion.convertExpr d e) := by
  unfold Conversion.convertExpr
  split
  next name tail =>
    split
    next renamed h => exact .renamed h tail
    next h =>
      refine .same _ (fun name' tail' heq => ?_) fun b heq => nomatch heq
      cases heq
      exact h
  next b =>
    by_cases h : d.numericBooleans = true
    · rw [if_pos h]
      exact .boolean h b
    · rw [if_neg h]
      exact .same _ (fun name tail heq => nomatch heq) fun _ _ => Bool.eq_false_iff.2 h
  next hcall hboolean =>
    exact .same e (fun name tail heq => absurd heq (hcall name tail))
      fun b heq => absurd heq (hboolean b)

/-- A limit is written as a `FETCH`, and an offset in rows. -/
def Window.fetching (w : Window) : Window :=
  { w with
    limit := none
    unit := if w.offset.isSome then .rows else w.unit
    fetch := if w.limit.isSome then some {} else w.fetch
    fetched := if w.limit.isSome then w.limit else w.fetched }

/-- An order and an offset are put where there are none. -/
def Window.padded (w : Window) : Window :=
  { w with
    order := if w.order.isEmpty then Conversion.nullOrder else w.order
    offset := some (w.offset.getD (.value (.number "0" false)))
    unit := .rows }

/-- A limit becomes a `FETCH`, if no order is needed for it. -/
theorem Window.fetches_fetching {ordered : Bool} {w : Window} (h : ordered = true → ¬ w.IsPaged) :
    w.Fetches ordered w.fetching where
  noLimit := rfl
  ofLimit n hn := by simp [fetching, hn]
  ofFetch hnone := by simp [fetching, hnone]
  offset n hn := by simp [fetching, hn]
  noOffset hnone n hn := absurd (hnone.symm.trans hn) (Option.some_ne_none n).symm
  unit hnone := by
    have hoffset : w.offset = none := hnone
    simp [fetching, hoffset]
  paged hordered := by
    refine iff_of_false (fun hoffset => ?_) (h hordered)
    exact h hordered (.inr (.inr hoffset))
  unpaged _ := Iff.rfl
  sorted hordered hoffset := absurd (.inr (.inr hoffset)) (h hordered)
  order _ := rfl
  noOrder hnone := .inl hnone

/-- Where an order is needed, an offset and an order are written with the `FETCH`. -/
theorem Window.fetches_padded {ordered : Bool} {w : Window} (h : ordered = true) (hw : w.IsPaged) :
    w.Fetches ordered w.fetching.padded where
  noLimit := rfl
  ofLimit n hn := by simp [padded, fetching, hn]
  ofFetch hnone := by simp [padded, fetching, hnone]
  offset n hn := by simp [padded, fetching, hn]
  -- the zero is put in
  noOffset hnone n hn := by
    have hzero : some (.value (.number "0" false)) = some n := by
      rw [← hn]
      simp [padded, fetching, hnone]
    exact ⟨(Option.some.inj hzero).symm, rfl⟩
  unit hnone := absurd hnone (Option.some_ne_none _)
  paged _ := iff_of_true rfl hw
  unpaged hnot := absurd (hnot.symm.trans h) Bool.false_ne_true
  sorted _ _ := by
    show (if w.order.isEmpty then Conversion.nullOrder else w.order) ≠ []
    split_ifs with hempty
    · exact List.cons_ne_nil _ _
    · simpa using hempty
  order hne := if_neg fun hempty => hne (List.isEmpty_iff.1 hempty)
  noOrder hnone := .inr ⟨h, rfl, if_pos (List.isEmpty_iff.2 hnone)⟩

/-- Without `LIMIT`, a converted query has its window with a `FETCH`, and with all that must stand
before it. -/
theorem Query.convertQuery_eq_withWindow (hd : d.acceptsLimit = false) (q : Query) :
    Conversion.convertQuery d q = q.withWindow
      (if (q.window.fetching.fetch.isSome || q.window.offset.isSome) && d.orderedOffset then
        q.window.fetching.padded
      else q.window.fetching) := by
  obtain ⟨recursive, ctes, body, order, limit, offset, unit, detail, fetch, fetched, closing⟩ := q
  cases limit <;> cases offset <;> cases fetch <;> cases hp : d.orderedOffset <;>
    simp [Conversion.convertQuery, hd, hp, Query.withWindow, Query.window, Window.fetching,
      Window.padded]

/-- The window of a converted query takes the same rows as before. -/
theorem Query.windowed_convertQuery (q : Query) : q.Windowed d (Conversion.convertQuery d q) := by
  cases hd : d.acceptsLimit with
  | true =>
    have hkept : Conversion.convertQuery d q = q := by
      unfold Conversion.convertQuery
      exact if_pos hd
    rw [hkept]
    exact .kept hd q
  | false =>
    -- turning a limit into a fetch leaves the window as paged as it was
    have hpaged : (q.window.fetching.fetch.isSome || q.window.offset.isSome) = true ↔
        q.window.IsPaged := by
      rw [Window.IsPaged, Bool.or_eq_true, ← or_assoc]
      refine or_congr_left ?_
      simp only [Window.fetching]
      split_ifs with hlimit
      · simp [hlimit]
      · simp [hlimit]
    rw [Query.convertQuery_eq_withWindow d hd]
    split_ifs with h
    · obtain ⟨hwindow, hordered⟩ := Bool.and_eq_true_iff.1 h
      exact .fetched hd (Window.fetches_padded hordered (hpaged.1 hwindow))
    · refine .fetched hd (Window.fetches_fetching fun hordered hwindow => h ?_)
      rw [hpaged.2 hwindow, hordered]
      rfl

end

end Statement

open Statement in
/-- For every statement and every dialect, a conversion has every query at any depth take the same rows
as before, and touches nothing else but names of functions and truth values. -/
theorem Statement.rows_kept (d : Dialect) (s : Statement) :
    s.Reworked (conversion d) (s.pass (Conversion.pass d)) :=
  Statement.reworked_pass (R := conversion d) (Expr.converted_convertExpr d)
    (Query.windowed_convertQuery d) s

namespace Statement

/-- The column `x` of a relation, with a window. -/
def columnOf (r : Relation) (w : Window) : Query :=
  .mk false [] (.select (.mk [] [(.ident ⟨"x", none⟩, none)] "" [.mk r []] [])) w.order w.limit
    w.offset w.unit [] w.fetch w.fetched ""

/-- A query with a window over a query with a window. -/
def windowOver (inner outer : Window) : Statement :=
  .query (columnOf (.derived false (columnOf (.table [⟨"t", none⟩] false [] none []) inner)
    (some { name := ⟨"s", none⟩ })) outer)

end Statement

open Statement in
/-- Without `LIMIT`, a query with a limit gets an offset and an order so that it can fetch, and so does
the query around it for its offset. -/
theorem Statement.rows_kept_nested :
    let inner : Window := ⟨[], some (.value (.number "5" false)), none, .none, none, none⟩
    let outer : Window := ⟨[], none, some (.value (.number "2" false)), .none, none, none⟩
    let fetched : Window := ⟨Conversion.nullOrder, none, some (.value (.number "0" false)), .rows,
      some {}, some (.value (.number "5" false))⟩
    let skipped : Window := ⟨Conversion.nullOrder, none, some (.value (.number "2" false)), .rows,
      none, none⟩
    (windowOver inner outer).Reworked (conversion .tsql) (windowOver fetched skipped) ∧
      inner.Fetches true fetched ∧ outer.Fetches true skipped ∧
      (windowOver inner outer).text = "SELECT x FROM (SELECT x FROM t LIMIT 5) AS s OFFSET 2" ∧
      (windowOver fetched skipped).text =
        "SELECT x FROM (SELECT x FROM t ORDER BY (SELECT NULL) OFFSET 0 ROWS " ++
        "FETCH FIRST 5 ROWS ONLY) AS s ORDER BY (SELECT NULL) OFFSET 2 ROWS" := by
  intro inner outer fetched skipped
  exact ⟨rows_kept .tsql (windowOver inner outer), Window.fetches_padded rfl (.inl rfl),
    Window.fetches_padded rfl (.inr (.inr rfl)), by decide +kernel, by decide +kernel⟩

end DatasetSql
