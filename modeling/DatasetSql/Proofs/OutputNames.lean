import DatasetSql.Proofs.CaseFolding
import DatasetSql.Proofs.SelectList

/-!
# The names of a result

Where the user chooses no names, those of a result follow from the columns: each is named after its
column, and after the table as well if it is that of a table of a view. All of them are folded. Names of
columns differ by more than the case of ASCII letters, which keeps the names of a result apart as far as
folding and the joining of table and column do: for ASCII names, outside views, they always differ.
-/

namespace DatasetSql

open Emit SchemaDraft

/-- What an item of a column is called in a result: its alias, or else the folded name of the column. -/
def outputName (d : Dialect) (c : Column) (item : Expr × Option String) : String :=
  item.2.getD (d.foldIdentifier c.name)

/-- What the items of some columns are called. -/
def outputNames (d : Dialect) (columns : List Column) (items : List (Expr × Option String)) :
    List String :=
  List.zipWith (outputName d) columns items

/-- What a column is called before folding if the user chooses no name. -/
def Column.derivedName (isView : Bool) (c : Column) : String :=
  match c.expression, c.qualifiedParts with
  | none, some (table, column) => if isView then table ++ "_" ++ column else c.name
  | _, _ => c.name

namespace Column

variable {c : Column} {isView : Bool}

/-- In a view a qualified column is named by its table and its name. -/
theorem derivedName_of_qualified {table column : String} (hc : c.expression = none)
    (hname : Qualified c.name (table, column)) : c.derivedName true = table ++ "_" ++ column := by
  have hparts : c.qualifiedParts = some (table, column) := qualifiedName?_eq_some_iff.2 hname
  simp only [derivedName, hc, hparts, if_true]

theorem derivedName_of_expression {text : String} (hc : c.expression = some text) :
    c.derivedName isView = c.name := by
  simp only [derivedName, hc]

/-- A column that is not qualified keeps its name. -/
theorem derivedName_of_not_qualified (hname : isView = true → ∀ parts, ¬ Qualified c.name parts) :
    c.derivedName isView = c.name := by
  unfold derivedName
  split
  next table column _ hparts =>
    exact if_neg fun hview => hname hview _ (qualifiedName?_eq_some_iff.1 hparts)
  next => rfl

theorem derivedName_false (c : Column) : c.derivedName false = c.name :=
  derivedName_of_not_qualified fun hview => nomatch hview

/-- The derived name of a column has the characters of its name, and an underscore. -/
theorem isAscii_derivedName (h : Dialect.isAscii c.name = true) :
    Dialect.isAscii (c.derivedName isView) = true := by
  unfold derivedName
  split
  next table column _ hparts =>
    have hname := (qualifiedName?_eq_some_iff.1 hparts).text
    split_ifs
    · simp only [Dialect.isAscii, hname, String.toList_append, List.all_append, List.all_cons,
        Bool.and_eq_true] at h ⊢
      exact ⟨⟨h.1, by decide⟩, h.2.2⟩
    · exact h
  next => exact h

end Column

namespace Schema

variable {s : Schema} {d : Dialect} {c : Column}

/-- An item is called by the derived name of its column, folded, unless the user chose a name. -/
theorem IsItem.outputName_eq {item : Expr × Option String} (h : IsItem d s c item)
    (hown : c.asName = none) (hrename : ∀ t ∈ s.transformations, ∀ name, t.rule ≠ .rename name) :
    outputName d c item = d.foldIdentifier (c.derivedName s.source.isView) := by
  have hname := h.name
  unfold outputName
  generalize item.2 = asName at hname
  cases hname with
  | renamed hts ht _ =>
    refine absurd ht.2 (hrename _ ?_ _)
    rw [hts]
    exact List.mem_append_right _ List.mem_cons_self
  | own _ hc =>
    rw [hown] at hc
    exact nomatch hc
  | expression _ _ hc => rw [Column.derivedName_of_expression hc, Option.getD_some]
  | qualified _ _ hc hview hqualified =>
    rw [hview, Column.derivedName_of_qualified hc hqualified, Option.getD_some]
  | changed _ _ _ hqualified _ => rw [Column.derivedName_of_not_qualified hqualified, Option.getD_some]
  | unchanged _ _ hqualified _ => rw [Column.derivedName_of_not_qualified hqualified, Option.getD_none]

/-- Without aliases and renaming the output names are the derived ones, as the dialect folds
them. -/
theorem outputNames_eq {columns : List Column} {items : List (Expr × Option String)}
    (hitems : List.Forall₂ (IsItem d s) columns items) (hown : ∀ c ∈ columns, c.asName = none)
    (hrename : ∀ t ∈ s.transformations, ∀ name, t.rule ≠ .rename name) :
    outputNames d columns items =
      columns.map fun c => d.foldIdentifier (c.derivedName s.source.isView) := by
  induction hitems with
  | nil => rfl
  | cons hitem _ ih =>
    obtain ⟨hown, howns⟩ := List.forall_mem_cons.1 hown
    rw [List.map_cons, ← hitem.outputName_eq hown hrename, ← ih howns]
    rfl

/-- A select list is built, and what it calls the columns are their derived names, folded. -/
theorem exists_selectList {b : SchemaDraft} (h : b.build = .ok s)
    (hown : ∀ c ∈ s.columns, c.asName = none)
    (hrename : ∀ t ∈ s.transformations, ∀ name, t.rule ≠ .rename name) (d : Dialect) :
    ∃ items, selectList d s = .ok items ∧ outputNames d s.columns items =
      s.columns.map fun c => d.foldIdentifier (c.derivedName s.source.isView) := by
  obtain ⟨hvalid, hbecomes⟩ := build_eq_ok_iff_becomes.1 h
  have hitem : ∀ c ∈ s.columns, ∃ item, selectItem d s c = .ok item ∧ IsItem d s c item := by
    intro c hc
    rw [hbecomes.columns] at hc
    exact exists_selectItem d (hvalid.expressions c hc)
  obtain ⟨items, hread, hitems⟩ := exists_mapM_eq_ok hitem
  have hnames := outputNames_eq hitems hown hrename
  refine ⟨_, bind_eq_ok.2 ⟨items, hread, rfl⟩, ?_⟩
  -- without columns everything is selected, and nothing is called after a column
  cases items with
  | nil =>
    rw [List.forall₂_nil_right_iff.1 hitems]
    rfl
  | cons _ _ => exact hnames

/-- For every schema that is built, without aliases and renamings, and every dialect, what the select
list calls the columns are their derived names, folded. So they are called differently exactly if no two
derived names are folded to one. For ASCII names these are the derived names that differ by the case of
letters at most; outside views, where they are the names of the columns, there are none. -/
theorem outputNames_nodup_iff {b : SchemaDraft} (h : b.build = .ok s)
    (hown : ∀ c ∈ s.columns, c.asName = none)
    (hrename : ∀ t ∈ s.transformations, ∀ name, t.rule ≠ .rename name) (d : Dialect) :
    ∃ items, selectList d s = .ok items ∧
      outputNames d s.columns items =
        s.columns.map (fun c => d.foldIdentifier (c.derivedName s.source.isView)) ∧
      ((outputNames d s.columns items).Nodup ↔ s.columns.Pairwise fun c c' =>
        d.foldIdentifier (c.derivedName s.source.isView) ≠
          d.foldIdentifier (c'.derivedName s.source.isView)) ∧
      ((∀ c ∈ s.columns, Dialect.isAscii c.name = true) →
        ((outputNames d s.columns items).Nodup ↔ s.columns.Pairwise fun c c' =>
          Text.eqIgnoreCase (c.derivedName s.source.isView) (c'.derivedName s.source.isView) =
            false) ∧
        (s.source.isView = false → (outputNames d s.columns items).Nodup)) := by
  obtain ⟨items, hread, hnames⟩ := exists_selectList h hown hrename d
  have hnodup : (outputNames d s.columns items).Nodup ↔ s.columns.Pairwise fun c c' =>
      d.foldIdentifier (c.derivedName s.source.isView) ≠
        d.foldIdentifier (c'.derivedName s.source.isView) := by
    rw [hnames, List.Nodup, List.pairwise_map]
  refine ⟨items, hread, hnames, hnodup, fun hascii => ?_⟩
  have hcase : (outputNames d s.columns items).Nodup ↔ s.columns.Pairwise fun c c' =>
      Text.eqIgnoreCase (c.derivedName s.source.isView) (c'.derivedName s.source.isView) = false := by
    rw [hnodup]
    refine List.Pairwise.iff_of_mem fun {c c'} hc hc' => ?_
    -- folding and comparing without case agree on ASCII only
    rw [ne_eq, d.foldIdentifier_eq_iff (Column.isAscii_derivedName (hascii c hc))
      (Column.isAscii_derivedName (hascii c' hc')), Bool.not_eq_true]
  refine ⟨hcase, fun hview => hcase.2 ?_⟩
  simp only [hview, Column.derivedName_false]
  obtain ⟨hvalid, hbecomes⟩ := build_eq_ok_iff_becomes.1 h
  rw [hbecomes.columns]
  exact hvalid.columnsDiffer

/-- Columns without names of the user's choice, among them one of the joined table that is computed. -/
def derivedView : SchemaDraft :=
  make "Orders" (.view [{ source := "orders.customer", target := "customers.id" }])
    [.columns [{ name := "orders.id", type := .integer }, { name := "customers.id", type := .integer },
        { name := "total", type := .float, expression := some "price + 1" }],
      .transformations [⟨some "ORDERS.id", .strip, []⟩]]

/-- A view whose columns stay apart in Oracle, where names are folded to capitals. -/
theorem outputNames_nodup_iff_view :
    ∃ s, derivedView.build = .ok s ∧ (∀ c ∈ s.columns, c.asName = none) ∧
      (∀ t ∈ s.transformations, ∀ name, t.rule ≠ .rename name) ∧
      ∃ items, selectList .oracle s = .ok items ∧
        outputNames .oracle s.columns items = ["ORDERS_ID", "CUSTOMERS_ID", "TOTAL"] ∧
        (outputNames .oracle s.columns items).Nodup := by
  have hbuild : derivedView.build.toOption.isSome = true := by decide +kernel
  obtain ⟨s, hs⟩ := Option.isSome_iff_exists.1 hbuild
  rw [toOption_eq_some] at hs
  have hbecomes := (build_eq_ok_iff_becomes.1 hs).2
  have hcolumns : s.columns = derivedView.columns := hbecomes.columns
  have hown : ∀ c ∈ s.columns, c.asName = none := by
    rw [hcolumns]
    decide +kernel
  have hrename : ∀ t ∈ s.transformations, ∀ name, t.rule ≠ .rename name := by
    rw [hbecomes.transformations]
    intro t ht name hname
    rw [List.mem_singleton.1 ht] at hname
    exact nomatch hname
  have hview : s.source.isView = true := by
    rw [hbecomes.source]
    rfl
  have hderived : s.columns.map (fun c => Dialect.oracle.foldIdentifier
      (c.derivedName s.source.isView)) = ["ORDERS_ID", "CUSTOMERS_ID", "TOTAL"] := by
    rw [hview, hcolumns]
    decide +kernel
  -- the theorem turns the question into one about the derived names
  obtain ⟨items, hread, hnames, hnodup, -⟩ := outputNames_nodup_iff hs hown hrename .oracle
  refine ⟨s, hs, hown, hrename, items, hread, hnames.trans hderived, hnodup.2 ?_⟩
  rw [← List.pairwise_map, hderived]
  decide

/-- Two columns of a file whose names differ by the case of a letter that is not an ASCII letter. -/
def accentedFile : SchemaDraft :=
  make "s" (.file .csv "x.csv")
    [.columns [{ name := "\u00c9", type := .string }, { name := "\u00e9", type := .string }]]

/-- Two columns of a view whose tables and names are joined to one name. -/
def joinedNames : SchemaDraft :=
  make "v" (.view [{ source := "a.id", target := "a_b.a_id" }])
    [.columns [{ name := "a.b_c", type := .string }, { name := "a_b.c", type := .string }]]

/-- A run of the model that gives the names of a result. -/
theorem exists_outputNames (b : SchemaDraft) (d : Dialect) (names : List String)
    (hown : ∀ c ∈ b.columns, c.asName = none) (htransformations : b.transformations = [])
    (hrun : b.build.toOption.map (fun s =>
      (selectList d s).toOption.map (outputNames d s.columns)) = some (some names)) :
    ∃ s items, b.build = .ok s ∧ (∀ c ∈ s.columns, c.asName = none) ∧ s.transformations = [] ∧
      selectList d s = .ok items ∧ outputNames d s.columns items = names := by
  obtain ⟨s, hs, hitems⟩ := Option.map_eq_some_iff.1 hrun
  obtain ⟨items, hitems, hnames⟩ := Option.map_eq_some_iff.1 hitems
  rw [toOption_eq_some] at hs hitems
  have hbecomes := (build_eq_ok_iff_becomes.1 hs).2
  exact ⟨s, items, hs, by rwa [hbecomes.columns], hbecomes.transformations.trans htransformations,
    hitems, hnames⟩

/-- Without aliases and renamings, two columns of a result may have one name. -/
theorem outputNames_not_nodup :
    (∃ s items, accentedFile.build = .ok s ∧ (∀ c ∈ s.columns, c.asName = none) ∧
      s.transformations = [] ∧ selectList .duckdb s = .ok items ∧
      ¬ (outputNames .duckdb s.columns items).Nodup) ∧
    ∃ s items, joinedNames.build = .ok s ∧ (∀ c ∈ s.columns, c.asName = none) ∧
      s.transformations = [] ∧ selectList .duckdb s = .ok items ∧
      ¬ (outputNames .duckdb s.columns items).Nodup := by
  constructor
  · obtain ⟨s, items, hs, hown, hnone, hread, hnames⟩ :=
      exists_outputNames accentedFile .duckdb ["\u00e9", "\u00e9"] (by decide +kernel) rfl
        (by decide +kernel)
    exact ⟨s, items, hs, hown, hnone, hread, by rw [hnames]; decide⟩
  · obtain ⟨s, items, hs, hown, hnone, hread, hnames⟩ :=
      exists_outputNames joinedNames .duckdb ["a_b_c", "a_b_c"] (by decide +kernel) rfl
        (by decide +kernel)
    exact ⟨s, items, hs, hown, hnone, hread, by rw [hnames]; decide⟩

end Schema

end DatasetSql
