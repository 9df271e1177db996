import DatasetSql.Proofs.CaseFolding
import DatasetSql.Proofs.SelectList

/-!
# What a query is grouped and sorted by

A query is grouped and sorted by names, and a name may be that of a declared column in another case.
The column is then read by the select list as well, which cuts the name of a column of a view only if
there is something on either side of its first dot, where a grouping and a sorting cut it at every
first dot. So they read the column as the select list does exactly if nothing else is ever cut.
-/

namespace DatasetSql

open Emit SchemaDraft

/-! ## Keys of a query -/

namespace Emit.Query

/-- What a query is grouped by. -/
def groupKeys : Query → List Expr
  | .mk _ _ _ _ groupBy _ _ => groupBy

/-- What a query is sorted by. -/
def sortKeys : Query → List (Expr × Option SortDirection)
  | .mk _ _ _ _ _ orderBy _ => orderBy

@[simp] theorem groupKeys_withLimit (n : Nat) (q : Query) : (q.withLimit n).groupKeys = q.groupKeys := by
  cases q
  rfl

@[simp] theorem sortKeys_withLimit (n : Nat) (q : Query) : (q.withLimit n).sortKeys = q.sortKeys := by
  cases q
  rfl

end Emit.Query

namespace Schema

variable {s : Schema} {d : Dialect}

/-- An entry of the grouping that is accepted becomes a reference. -/
theorem groupItem_eq_ok {name : String} {e : Expr} (h : groupItem d s name = .ok e) :
    e = reference d s name := by
  unfold groupItem at h
  split_ifs at h
  exact (Except.ok.inj h).symm

/-- A full query is grouped and sorted by references, in the order in which the schema names them. -/
theorem keys_of_fullQuery {root : String} {q : Query} (h : s.fullQuery d root = .ok q) :
    q.groupKeys = s.groupBy.map (reference d s) ∧
      q.sortKeys = s.orderBy.map fun o => (reference d s o.column, o.direction) := by
  obtain ⟨base, hbase, h⟩ := bind_eq_ok.1 h
  obtain ⟨source, hsource, hrest⟩ := bind_eq_ok.1 hbase
  obtain ⟨items, hitems, hrest⟩ := bind_eq_ok.1 hrest
  obtain ⟨groups, hgroups, hrest⟩ := bind_eq_ok.1 hrest
  cases hrest
  have hgroups : groups = s.groupBy.map (reference d s) := by
    rw [← List.forall₂_eq_eq_eq, List.forall₂_map_right_iff]
    exact (mapM_eq_ok.1 hgroups).flip.imp fun _ _ => groupItem_eq_ok
  subst hgroups
  cases h
  cases s.limit with
  | none => exact ⟨rfl, rfl⟩
  | some n => exact ⟨rfl, rfl⟩

/-! ## References -/

/-- A name is read alike in every case. -/
theorem reference_congr (d : Dialect) (s : Schema) {a b : String} (h : Text.eqIgnoreCase a b = true) :
    reference d s a = reference d s b := by
  have hfold := d.foldIdentifier_congr h
  unfold reference
  cases ha : Text.splitOnce '.' a with
  | none =>
    have hb : Text.splitOnce '.' b = none := by
      rw [Option.eq_none_iff_forall_ne_some]
      rintro ⟨x, y⟩ hb
      rw [Text.eqIgnoreCase_comm] at h
      obtain ⟨x', y', ha', -⟩ := Text.splitOnce_of_eqIgnoreCase (by decide) h hb
      exact Option.some_ne_none _ (ha'.symm.trans ha)
    rw [hb, hfold]
  | some parts =>
    obtain ⟨x', y', hb, hx, hy⟩ := Text.splitOnce_of_eqIgnoreCase (by decide) h ha
    rw [hb]
    dsimp only
    rw [hfold, qualified, qualified, d.foldIdentifier_congr hx, d.foldIdentifier_congr hy]

/-- In a view a qualified name becomes a qualified column. -/
theorem reference_of_qualified {name table column : String} (hview : s.source.isView = true)
    (hname : Qualified name (table, column)) : reference d s name = qualified d table column := by
  have hcut : Text.splitOnce '.' name = some (table, column) :=
    Text.splitOnce_eq_some_iff.2 ⟨hname.text, hname.firstDot⟩
  simp only [reference, hcut, hview, if_true]

/-- A name is read as that of a column without a table exactly if it is not cut. -/
theorem reference_eq_col_iff {name : String} :
    reference d s name = .column none (d.foldIdentifier name) ↔
      (s.source.isView = true → '.' ∉ name.toList) := by
  unfold reference
  cases hcut : Text.splitOnce '.' name with
  | none => exact iff_of_true rfl fun _ => Text.splitOnce_eq_none_iff.1 hcut
  | some parts =>
    have hdot : '.' ∈ name.toList := by
      by_contra hdot
      rw [Text.splitOnce_eq_none_iff.2 hdot] at hcut
      exact nomatch hcut
    by_cases hview : s.source.isView = true
    · simp [hview, hdot, qualified]
    · simp [hview, Expr.col]

/-- Of columns that differ, those of one name are one column. -/
theorem eq_of_eqIgnoreCase {columns : List Column}
    (hdiffer : columns.Pairwise fun c c' => Text.eqIgnoreCase c.name c'.name = false)
    {c c' : Column} (hc : c ∈ columns) (hc' : c' ∈ columns)
    (hsame : Text.eqIgnoreCase c.name c'.name = true) : c = c' := by
  by_contra hne
  have : Std.Symm fun c c' : Column => Text.eqIgnoreCase c.name c'.name = false :=
    ⟨fun c c' h => (Text.eqIgnoreCase_comm c'.name c.name).trans h⟩
  exact Bool.noConfusion (hsame.symm.trans (hdiffer.forall hc hc' hne))

/-- The column of a name has no expression if one column of this name has none. -/
theorem groupItem_of_mem {c : Column}
    (hdiffer : s.columns.Pairwise fun c c' => Text.eqIgnoreCase c.name c'.name = false)
    (hc : c ∈ s.columns) (hplain : c.expression = none) {name : String}
    (hname : Text.eqIgnoreCase name c.name = true) :
    groupItem d s name = .ok (reference d s name) := by
  refine if_neg fun hany => ?_
  obtain ⟨found, hfound, hexpression⟩ := (Option.any_eq_true _ _).1 hany
  have hsame : Text.eqIgnoreCase found.name c.name = true := by
    have hnamed := List.find?_some hfound
    rw [Text.eqIgnoreCase_eq_true] at hname ⊢
    exact (Text.eqIgnoreCase_eq_true.1 hnamed).trans hname
  have hfound := eq_of_eqIgnoreCase hdiffer (List.mem_of_find?_eq_some hfound) hc hsame
  rw [hfound, hplain] at hexpression
  exact nomatch hexpression

/-- Every schema that is built is grouped and sorted by what its names refer to, in every dialect. A name
that is that of a declared column without expression, in any case, refers to what the column is read as
in the select list exactly if, in a view, a dot in the name of the column stands between the two names
of a table and of a column. -/
theorem reference_eq_start_iff {b : SchemaDraft} (h : b.build = .ok s) (d : Dialect) :
    (∀ root q, s.fullQuery d root = .ok q → q.groupKeys = s.groupBy.map (reference d s) ∧
      q.sortKeys = s.orderBy.map fun o => (reference d s o.column, o.direction)) ∧
    ∀ c ∈ s.columns, c.expression = none → ∀ name, Text.eqIgnoreCase name c.name = true →
      groupItem d s name = .ok (reference d s name) ∧
      ∃ start asName, columnStart d s.source.isView c = .ok (start, asName) ∧
        (reference d s name = start ↔
          (s.source.isView = true → '.' ∈ c.name.toList → ∃ parts, Qualified c.name parts)) := by
  obtain ⟨hvalid, hbecomes⟩ := build_eq_ok_iff_becomes.1 h
  refine ⟨fun root q hq => keys_of_fullQuery hq, fun c hc hplain name hname => ⟨?_, ?_⟩⟩
  · refine groupItem_of_mem ?_ hc hplain hname
    rw [hbecomes.columns]
    exact hvalid.columnsDiffer
  · have hnone (text : String) (htext : c.expression = some text) : IsExpression text := by
      rw [hplain] at htext
      exact nomatch htext
    obtain ⟨start, asName, hread, hstart, -⟩ :=
      exists_columnStart d s.source.isView s.transformations hnone
    refine ⟨start, asName, hread, ?_⟩
    rw [reference_congr d s hname]
    -- a dot in the name is cut by a reference in any case, by the list only between two names
    cases hstart with
    | expression htext _ =>
      rw [hplain] at htext
      exact nomatch htext
    | @qualified table column _ hview hparts =>
      exact iff_of_true (reference_of_qualified hview hparts) fun _ _ => ⟨_, hparts⟩
    | plain _ hunqualified =>
      rw [reference_eq_col_iff]
      refine forall_congr' fun hview => ?_
      have hnever : ¬ ∃ parts, Qualified c.name parts := not_exists.2 (hunqualified hview)
      rw [imp_iff_not_or, or_iff_left hnever]

/-- Orders with their customers, grouped by a column in another case. -/
def groupedView : SchemaDraft :=
  make "Totals" (.view [{ source := "orders.customer", target := "customers.id" }])
    [.columns [{ name := "orders.Total", type := .float }], .groupBy ["orders.TOTAL"]]

/-- A view that groups by a column in other letters refers to it as its select list does. -/
theorem reference_eq_start_iff_grouped :
    ∃ s c, groupedView.build = .ok s ∧ c ∈ s.columns ∧ c.expression = none ∧
      Text.eqIgnoreCase "orders.TOTAL" c.name = true ∧ "orders.TOTAL" ∈ s.groupBy ∧
      groupItem .snowflake s "orders.TOTAL" = .ok (reference .snowflake s "orders.TOTAL") ∧
      ∃ start asName, columnStart .snowflake s.source.isView c = .ok (start, asName) ∧
        reference .snowflake s "orders.TOTAL" = start := by
  have hbuild : groupedView.build.toOption.isSome = true := by decide +kernel
  obtain ⟨s, hs⟩ := Option.isSome_iff_exists.1 hbuild
  rw [toOption_eq_some] at hs
  have hbecomes := (build_eq_ok_iff_becomes.1 hs).2
  have hc : { name := "orders.Total", type := .float } ∈ s.columns := by
    rw [hbecomes.columns]
    exact List.mem_cons_self
  have hsame : Text.eqIgnoreCase "orders.TOTAL" "orders.Total" = true := by decide +kernel
  obtain ⟨hgroup, start, asName, hstart, hiff⟩ :=
    (reference_eq_start_iff hs .snowflake).2 _ hc rfl "orders.TOTAL" hsame
  refine ⟨s, _, hs, hc, rfl, hsame, ?_, hgroup, start, asName, hstart, hiff.2 fun _ _ => ?_⟩
  · rw [hbecomes.groupBy]
    exact List.mem_cons_self
  · exact ⟨("orders", "Total"), qualifiedName?_eq_some_iff.1 (by decide +kernel)⟩

/-- A view that is sorted by a column whose name starts with a dot. -/
def dottedView : SchemaDraft :=
  make "v" (.view [{ source := "a.id", target := "b.a_id" }])
    [.columns [{ name := ".x", type := .string }], .orderBy [".x"]]

/-- The select list reads the whole name, and the sorting a column of a table without a name. -/
theorem reference_ne_start_of_dot :
    ∃ s c, dottedView.build = .ok s ∧ c ∈ s.columns ∧ c.expression = none ∧ c.name = ".x" ∧
      (∀ d, ∃ start asName, columnStart d s.source.isView c = .ok (start, asName) ∧
        reference d s ".x" ≠ start) ∧
      s.compile { dialect := some .postgres } =
        .ok ("SELECT \".x\" FROM \"a\" JOIN \"b\" ON \"a\".\"id\" = \"b\".\"a_id\" " ++
          "ORDER BY \"\".\"x\"") := by
  have hrun : dottedView.build.toOption.map (fun s =>
      (s.compile { dialect := some .postgres }).toOption) =
      some (some ("SELECT \".x\" FROM \"a\" JOIN \"b\" ON \"a\".\"id\" = \"b\".\"a_id\" " ++
        "ORDER BY \"\".\"x\"")) := by decide +kernel
  obtain ⟨s, hs, hcompiled⟩ := Option.map_eq_some_iff.1 hrun
  rw [toOption_eq_some] at hs hcompiled
  have hbecomes := (build_eq_ok_iff_becomes.1 hs).2
  have hview : s.source.isView = true := by
    rw [hbecomes.source]
    rfl
  refine ⟨s, { name := ".x", type := .string }, hs, ?_, rfl, rfl, fun d => ?_, hcompiled⟩
  · rw [hbecomes.columns]
    exact List.mem_cons_self
  · refine ⟨.col (d.foldIdentifier ".x"), none, ?_, ?_⟩
    -- the list takes the name whole, the reference cuts it
    · have hparts : qualifiedName? ".x" = none := by decide +kernel
      simp only [columnStart, Column.qualifiedParts, hparts]
    · have hcut : Text.splitOnce '.' ".x" = some ("", "x") := by decide +kernel
      simp [reference, hcut, hview, qualified, Expr.col]

end Schema

end DatasetSql
