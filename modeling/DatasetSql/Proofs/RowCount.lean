import DatasetSql.Proofs.Compilation
import DatasetSql.Proofs.NumberChecks
import DatasetSql.Proofs.Rows

/-!
# The count of a schema's rows

A schema compiles to a query of its rows and to a query that counts them. The count is taken from
the select list if the schema groups or drops repeated rows, and from the source otherwise. So it is
the number of rows that the first query returns without its page, unless a column's expression calls
an aggregate function and nothing is grouped or dropped: then there is one row, and the count is that
of the source.
-/

namespace DatasetSql

open Emit SchemaDraft

/-! ## Rules that were made of parameters -/

namespace Params

variable {p : Params}

/-- Buckets keep the value: there is at least one, and its test has it. -/
theorem keepsValue_binRule {r : Rule} (h : p.binRule = .ok r) : r.KeepsValue := by
  obtain ⟨edges, labels, rfl, hedges, -, hlength⟩ := binRule_eq_ok h
  obtain ⟨-, htwo, -⟩ := edges_eq_ok hedges
  exact ⟨htwo, List.ne_nil_of_length_pos (by omega)⟩

/-- A rule that was made of parameters keeps the expression that it is applied to. -/
theorem keepsValue_rule {r : Rule} (h : p.rule = .ok r) : r.KeepsValue := by
  have hkind := rule_ofKind p r h
  cases r with
  | bin edges labels =>
    obtain ⟨kind, entries⟩ := p
    cases hkind
    exact keepsValue_binRule h
  | _ => trivial

end Params

/-- A rule that was made of parameters keeps the value it is applied to. -/
theorem Transformation.keepsValue_rule {kind : TransformationKind} {params : Json.Value}
    {t : Transformation} (h : ofKind kind params = .ok t) : t.rule.KeepsValue :=
  Params.keepsValue_rule (ofKind_eq_ok.1 h).2.2

/-! ## Columns that aggregate -/

/-- Whether the expression of a column calls an aggregate function, as the compiler writes it. -/
def Column.aggregates (d : Dialect) (isAggregate : String → Bool) (c : Column) : Bool :=
  match c.expression.map (Statement.parseExpr .generic) with
  | some (.ok e) => Statement.textAggregates d isAggregate e.text
  | some (.error _) | none => false

section

variable {R V : Type} {db : Database R V} {d : Dialect}

/-- An addition of a rule is no aggregate. -/
theorem Rule.IsAddition.aggregatesHere_eq_false {x : Expr} (h : Rule.IsAddition x) :
    x.aggregatesHere d db.isAggregate = false := by
  cases x with
  | function name args => exact db.isAggregate_rules name h
  | raw sql => exact h.elim
  | _ => rfl

/-- Rules neither add aggregates nor lose them. -/
theorem Rule.aggregates_foldl_apply {rules : List Rule} (h : ∀ r ∈ rules, r.KeepsValue) (e : Expr) :
    (rules.foldl (Rule.apply d) e).aggregates d db.isAggregate = e.aggregates d db.isAggregate := by
  rw [Bool.eq_iff_iff, Expr.aggregates, Expr.aggregates, List.any_eq_true, List.any_eq_true]
  constructor
  · rintro ⟨x, hx, haggregates⟩
    rcases builtOn_foldl_apply rules x hx with hmem | hadded
    · exact ⟨x, hmem, haggregates⟩
    · rw [hadded.aggregatesHere_eq_false] at haggregates
      exact absurd haggregates Bool.false_ne_true
  · rintro ⟨x, hx, haggregates⟩
    exact ⟨x, parts_subset_foldl_apply h hx, haggregates⟩

namespace Schema

/-- A column starts as an aggregate exactly if it was written as one. -/
theorem aggregates_columnStart {isView : Bool} {c : Column} {x : Expr × Option String}
    (h : columnStart d isView c = .ok x) :
    x.1.aggregates d db.isAggregate = c.aggregates d db.isAggregate := by
  unfold columnStart at h
  split at h
  next expression hexpression =>
    obtain ⟨e, he, h⟩ := bind_eq_ok.1 h
    cases h
    unfold columnExpression at he
    split at he
    next parsed hparsed =>
      cases he
      split_ifs <;>
        -- the parentheses around an expression aggregate nothing
        simp [Expr.aggregates, Expr.parts, Expr.aggregatesHere, Column.aggregates, hexpression,
          hparsed]
    all_goals cases he
  next hexpression _ =>
    split_ifs at h <;> cases h <;>
      simp [Expr.aggregates, Expr.parts, Expr.aggregatesHere, Column.aggregates, hexpression,
        qualified, Expr.col]
  next hexpression _ =>
    cases h
    simp [Expr.aggregates, Expr.parts, Expr.aggregatesHere, Column.aggregates, hexpression, Expr.col]

variable {s : Schema}

/-- An item aggregates exactly if its column does, since no rule drops its value and none brings an
aggregate. -/
theorem aggregates_selectItem (hkeeps : ∀ t ∈ s.transformations, t.rule.KeepsValue) {c : Column}
    {item : Expr × Option String} (h : selectItem d s c = .ok item) :
    item.1.aggregates d db.isAggregate = c.aggregates d db.isAggregate := by
  obtain ⟨x, hx, h⟩ := bind_eq_ok.1 h
  cases h
  rw [← aggregates_columnStart hx]
  refine Rule.aggregates_foldl_apply (List.forall_mem_map.2 fun t ht => ?_) x.1
  exact hkeeps t (List.mem_filter.1 ht).1

/-- The compiled select list aggregates exactly if a column does. -/
theorem any_aggregates_selectList (hkeeps : ∀ t ∈ s.transformations, t.rule.KeepsValue)
    {items : List (Expr × Option String)} (h : selectList d s = .ok items) :
    items.any (·.1.aggregates d db.isAggregate) = s.columns.any (·.aggregates d db.isAggregate) := by
  obtain ⟨read, hread, h⟩ := bind_eq_ok.1 h
  have hany : read.any (·.1.aggregates d db.isAggregate) =
      s.columns.any (·.aggregates d db.isAggregate) := by
    have hitems := mapM_eq_ok.1 hread
    clear hread h
    generalize s.columns = columns at hitems ⊢
    induction hitems with
    | nil => rfl
    | cons hitem _ ih => rw [List.any_cons, List.any_cons, ih, aggregates_selectItem hkeeps hitem]
  cases h
  split_ifs with hempty
  · -- the star that stands for all columns is no aggregate
    rw [← hany, List.isEmpty_iff.1 hempty]
    rfl
  · exact hany

/-! ## Queries -/

/-- The query that is built from its parts, sorted but without its page. -/
theorem fullQuery_eq_ok {root : String} {q : Query} (h : s.fullQuery d root = .ok q) :
    ∃ source items groups order, s.fromClause d root = .ok source ∧ selectList d s = .ok items ∧
      (groups = [] ↔ s.groupBy = []) ∧
      s.baseQuery d root = .ok (.mk items s.distinct (some source.1) source.2 groups [] none) ∧
      q.withoutPage = .mk items s.distinct (some source.1) source.2 groups order none := by
  obtain ⟨base, hbase, h⟩ := bind_eq_ok.1 h
  obtain ⟨source, hsource, hrest⟩ := bind_eq_ok.1 hbase
  obtain ⟨items, hitems, hrest⟩ := bind_eq_ok.1 hrest
  obtain ⟨groups, hgroups, hrest⟩ := bind_eq_ok.1 hrest
  cases hrest
  refine ⟨source, items, groups, s.orderBy.map fun o => (reference d s o.column, o.direction),
    hsource, hitems, ?_, hbase, ?_⟩
  · have hlength := (mapM_eq_ok.1 hgroups).length_eq
    rw [← List.length_eq_zero_iff, ← hlength, List.length_eq_zero_iff]
  · cases h
    cases s.limit <;> rfl

/-- A schema that groups or drops repeated rows counts what it selects. -/
theorem countQuery_of_wrapped {root : String} {base : Query} (h : s.groupBy ≠ [] ∨ s.distinct = true)
    (hbase : s.baseQuery d root = .ok base) :
    s.countQuery d root =
      .ok (.ofSource [(.countStar, none)] (.subquery base (d.foldIdentifier s.name)) []) := by
  have hwraps : (!s.groupBy.isEmpty || s.distinct) = true := by simpa using h
  rw [countQuery, if_pos hwraps, hbase]
  rfl

/-- Any other schema counts what its source has. -/
theorem countQuery_of_plain {root : String} {source : FromClause} (hgroup : s.groupBy = [])
    (hdistinct : s.distinct = false) (hsource : s.fromClause d root = .ok source) :
    s.countQuery d root = .ok (.ofSource [(.countStar, none)] source.1 source.2) := by
  have hplain : ¬ (!s.groupBy.isEmpty || s.distinct) = true := by simp [hgroup, hdistinct]
  rw [countQuery, if_neg hplain, hsource]
  rfl

end Schema

end

/-- The usual aggregate functions. -/
def isCommonAggregate (name : String) : Bool :=
  ["count", "sum", "avg", "min", "max"].contains (Text.lower name)

/-- No function that a rule calls is an aggregate. -/
theorem isCommonAggregate_rules : ∀ name ∈ Rule.functions, isCommonAggregate name = false := by
  decide +kernel

theorem isCommonAggregate_count : isCommonAggregate "COUNT" = true := by
  decide +kernel

/-- A database in which every table has the same amounts. It knows the counts of rows and of groups;
any other item is the amount of a row. -/
def Database.ofAmounts (amounts : List Nat) : Database Nat Nat where
  table _ := amounts
  scan _ _ := amounts
  derived values := values.headD 0
  join _ _ r r' := if r = r' then some r else none
  key _ r := r
  values e groups rows :=
    match e with
    | .function "COUNT" [.star none] | .raw "count(*)" => [rows.length]
    | .raw "count(*) OVER ()" => [groups.length]
    | _ => [rows.headD 0]
  sort _ groups := groups
  number := id
  isAggregate := isCommonAggregate
  sort_perm _ _ := .refl _
  number_injective := Function.injective_id
  values_countStar _ _ := rfl
  isAggregate_count := isCommonAggregate_count
  isAggregate_rules := isCommonAggregate_rules

namespace Schema

variable {R V : Type} [DecidableEq V]

/-- The rows that a clause gives. -/
def clauseRows (d : Dialect) (db : Database R V) (source : FromClause) : List R :=
  db.joined source.2 (source.1.rows d db)

/-- If the rows of a schema can be queried, they can be counted. The count is the number of rows that
the query returns without its page exactly if the schema groups or drops repeated rows, or no column
calls an aggregate function, or the source happens to have one row. -/
theorem count_eq_length_rows_iff {b : SchemaDraft} {s : Schema} (h : b.build = .ok s)
    (hmade : ∀ t ∈ b.transformations, ∃ kind params, Transformation.ofKind kind params = .ok t)
    {d : Dialect} {root : String} {q : Query} (hq : s.fullQuery d root = .ok q)
    (db : Database R V) :
    ∃ source c, s.fromClause d root = .ok source ∧ s.countQuery d root = .ok c ∧
      (c.rows d db = [[db.number (q.withoutPage.rows d db).length]] ↔
        s.groupBy ≠ [] ∨ s.distinct = true ∨
          (∀ column ∈ s.columns, column.aggregates d db.isAggregate = false) ∨
          (clauseRows d db source).length = 1) := by
  obtain ⟨source, items, groups, order, hsource, hitems, hgroups, hbase, hpage⟩ := fullQuery_eq_ok hq
  have hkeeps : ∀ t ∈ s.transformations, t.rule.KeepsValue := by
    rw [(build_eq_ok_iff_becomes.1 h).2.transformations]
    intro t ht
    obtain ⟨kind, params, hread⟩ := hmade t ht
    exact Transformation.keepsValue_rule hread
  -- one number is counted, so the counts are equal exactly if the numbers are
  have hcount (m n : Nat) : [[db.number m]] = [[db.number n]] ↔ m = n := by
    simp [db.number_injective.eq_iff]
  by_cases hwraps : s.groupBy ≠ [] ∨ s.distinct = true
  · -- what is selected is counted, and the full query has as many rows in another order
    refine ⟨source, _, hsource, countQuery_of_wrapped hwraps hbase, ?_⟩
    refine iff_of_true ?_ (hwraps.imp_right .inl)
    rw [db.rows_count, hcount, hpage]
    show ((Query.rows d db _).map db.derived).length = _
    rw [List.length_map]
    exact db.length_selected d s.distinct [] order
  · -- the source is counted, whatever is selected from it
    obtain ⟨hgroup, hdistinct⟩ : s.groupBy = [] ∧ s.distinct = false := by simpa using hwraps
    refine ⟨source, _, hsource, countQuery_of_plain hgroup hdistinct hsource, ?_⟩
    have hrows : (q.withoutPage.rows d db).length =
        if s.columns.any (·.aggregates d db.isAggregate) then 1
        else (clauseRows d db source).length := by
      rw [hpage, hdistinct, hgroups.2 hgroup, ← any_aggregates_selectList hkeeps hitems]
      exact db.length_selected_plain d order
    rw [db.rows_count, hcount, hrows, ← clauseRows]
    cases hany : s.columns.any (·.aggregates d db.isAggregate) with
    | false =>
      rw [List.any_eq_false] at hany
      refine iff_of_true rfl (.inr (.inr (.inl fun column hcolumn => ?_)))
      exact Bool.eq_false_iff.2 (hany column hcolumn)
    | true =>
      obtain ⟨column, hcolumn, haggregates⟩ := List.any_eq_true.1 hany
      have hnot : ¬ ∀ column ∈ s.columns, column.aggregates d db.isAggregate = false :=
        fun hall => by simp [hall column hcolumn] at haggregates
      simp [hgroup, hdistinct, hnot]

/-- Amounts, and how many there are, with a window; only the first is asked for. -/
def amountsDraft : SchemaDraft :=
  make "Sales" (.file .csv "sales.csv")
    [.columns [{ name := "amount", type := .integer },
        { name := "n", type := .integer, expression := some "count(*) OVER ()" }],
      .transformations [⟨some "amount", .fillNa (.int 0),
        [("column", .string "amount"), ("value", .number (.int 0))]⟩],
      .orderBy ["amount"], .limit 1]

/-- Of three amounts with their number only the first row is asked for; all three are counted. -/
theorem count_eq_length_rows_iff_amounts :
    ∃ s q c, amountsDraft.build = .ok s ∧
      (∀ t ∈ amountsDraft.transformations,
        ∃ kind params, Transformation.ofKind kind params = .ok t) ∧
      s.fullQuery .duckdb "/data" = .ok q ∧ s.countQuery .duckdb "/data" = .ok c ∧
      q.rows .duckdb (.ofAmounts [1, 2, 2]) = [[1, 3]] ∧
      c.rows .duckdb (.ofAmounts [1, 2, 2]) =
        [[(q.withoutPage.rows .duckdb (.ofAmounts [1, 2, 2])).length]] := by
  have hrun : amountsDraft.build.toOption.bind (fun s =>
      (s.fullQuery .duckdb "/data").toOption.map fun q =>
        (q.rows .duckdb (.ofAmounts [1, 2, 2]),
          s.columns.all (!·.aggregates .duckdb (Database.ofAmounts [1, 2, 2]).isAggregate))) =
      some ([[1, 3]], true) := by decide +kernel
  obtain ⟨s, hs, hrun⟩ := Option.bind_eq_some_iff.1 hrun
  obtain ⟨q, hq, hrun⟩ := Option.map_eq_some_iff.1 hrun
  rw [toOption_eq_some] at hs hq
  obtain ⟨hrows, hcolumns⟩ := Prod.mk.inj hrun
  have hmade : ∀ t ∈ amountsDraft.transformations,
      ∃ kind params, Transformation.ofKind kind params = .ok t := by
    intro t ht
    rw [List.mem_singleton.1 ht]
    exact ⟨.fillNa, .object [("column", .string "amount"), ("value", .number (.int 0))], rfl⟩
  obtain ⟨_, c, -, hc, hcount⟩ := count_eq_length_rows_iff hs hmade hq (.ofAmounts [1, 2, 2])
  refine ⟨s, q, c, hs, hmade, hq, hc, hrows, hcount.2 (.inr (.inr (.inl ?_)))⟩
  simpa using hcolumns

/-- The number of rows of a file, computed in a column. -/
def totalsDraft : SchemaDraft :=
  make "totals" (.file .csv "sales.csv")
    [.columns [{ name := "n", type := .integer, expression := some "count(*)" }]]

/-- The query returns one row, which says that the file has three; three are counted. -/
theorem count_of_aggregate_is_of_source :
    ∃ s q c, totalsDraft.build = .ok s ∧ s.fullQuery .duckdb "/data" = .ok q ∧
      s.countQuery .duckdb "/data" = .ok c ∧
      q.withoutPage.rows .duckdb (.ofAmounts [1, 2, 2]) = [[3]] ∧
      c.rows .duckdb (.ofAmounts [1, 2, 2]) = [[3]] ∧
      c.rows .duckdb (.ofAmounts [1, 2, 2]) ≠
        [[(q.withoutPage.rows .duckdb (.ofAmounts [1, 2, 2])).length]] ∧
      s.compile { datasetRoot := "/data" } =
        .ok "SELECT count(*) AS \"n\" FROM read_csv('/data/sales.csv')" ∧
      s.compileCount { datasetRoot := "/data" } =
        .ok "SELECT COUNT(*) FROM read_csv('/data/sales.csv')" := by
  have hrun : totalsDraft.build.toOption.bind (fun s =>
      (s.fullQuery .duckdb "/data").toOption.bind fun q =>
        (s.countQuery .duckdb "/data").toOption.map fun c =>
          (q.withoutPage.rows .duckdb (.ofAmounts [1, 2, 2]),
            c.rows .duckdb (.ofAmounts [1, 2, 2]),
            (s.compile { datasetRoot := "/data" }).toOption,
            (s.compileCount { datasetRoot := "/data" }).toOption)) =
      some ([[3]], [[3]], some "SELECT count(*) AS \"n\" FROM read_csv('/data/sales.csv')",
        some "SELECT COUNT(*) FROM read_csv('/data/sales.csv')") := by decide +kernel
  obtain ⟨s, hs, hrun⟩ := Option.bind_eq_some_iff.1 hrun
  obtain ⟨q, hq, hrun⟩ := Option.bind_eq_some_iff.1 hrun
  obtain ⟨c, hc, hrun⟩ := Option.map_eq_some_iff.1 hrun
  rw [toOption_eq_some] at hs hq hc
  simp only [Prod.mk.injEq, toOption_eq_some] at hrun
  obtain ⟨hrows, hcount, htext, hcountText⟩ := hrun
  refine ⟨s, q, c, hs, hq, hc, hrows, hcount, ?_, htext, hcountText⟩
  -- the query returns one row, and three are counted
  rw [hcount, hrows]
  decide

end Schema

end DatasetSql
