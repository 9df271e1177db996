import DatasetSql.Proofs.Planning

/-!
# What is selected

A select list has one item for each declared column, in order. The item is what the column is read as,
with the rules of the transformations that target the column applied one after the other. Names of
columns differ, so each of these transformations is applied to one item. An item is named by the last
of them that renames, or else by the alias of the column, or else after the column itself.
-/

namespace DatasetSql

open Emit SchemaDraft

/-! ## Targets -/

/-- Texts are equal up to the case of ASCII letters if their characters are, in lower case. -/
theorem Text.eqIgnoreCase_eq_true {a b : String} :
    eqIgnoreCase a b = true ↔ a.toList.map Char.toLower = b.toList.map Char.toLower := by
  rw [eqIgnoreCase, beq_iff_eq]

/-- A transformation targets the column whose name it has, up to the case of ASCII letters. -/
theorem Transformation.targets_eq_true {t : Transformation} {column : String} :
    t.targets column = true ↔ ∃ name, t.column = some name ∧ Text.eqIgnoreCase name column = true := by
  simp [targets, Option.any_eq_true]

/-- The targets of a transformation have the same name. -/
theorem Transformation.eqIgnoreCase_of_targets {t : Transformation} {a b : String}
    (ha : t.targets a = true) (hb : t.targets b = true) : Text.eqIgnoreCase a b = true := by
  obtain ⟨name, hname, ha⟩ := targets_eq_true.1 ha
  obtain ⟨name', hname', hb⟩ := targets_eq_true.1 hb
  obtain rfl : name = name' := Option.some.inj (hname.symm.trans hname')
  rw [Text.eqIgnoreCase_eq_true] at ha hb ⊢
  exact ha.symm.trans hb

/-- A transformation has one target among columns that differ, if it has one at all. -/
theorem Transformation.countP_targets {columns : List Column} {t : Transformation} {name : String}
    (hdiffer : columns.Pairwise fun c c' => Text.eqIgnoreCase c.name c'.name = false)
    (hname : t.column = some name) (hdeclared : Declares columns name) :
    columns.countP (fun c => t.targets c.name) = 1 := by
  obtain ⟨c, hc, hsame⟩ := hdeclared
  have htarget : t.targets c.name = true := by
    rw [Text.eqIgnoreCase_eq_true] at hsame
    exact targets_eq_true.2 ⟨name, hname, Text.eqIgnoreCase_eq_true.2 hsame.symm⟩
  -- names that differ from the one meant cannot be meant
  obtain ⟨before, after, rfl⟩ := List.append_of_mem hc
  rw [List.pairwise_append, List.pairwise_cons] at hdiffer
  obtain ⟨-, ⟨hafter, -⟩, hbefore⟩ := hdiffer
  have hnoneBefore : before.countP (fun c => t.targets c.name) = 0 := by
    rw [List.countP_eq_zero]
    intro c' hc' htarget'
    have hne := hbefore c' hc' c List.mem_cons_self
    rw [eqIgnoreCase_of_targets htarget' htarget] at hne
    exact Bool.noConfusion hne
  have hnoneAfter : after.countP (fun c => t.targets c.name) = 0 := by
    rw [List.countP_eq_zero]
    intro c' hc' htarget'
    have hne := hafter c' hc'
    rw [eqIgnoreCase_of_targets htarget htarget'] at hne
    exact Bool.noConfusion hne
  rw [List.countP_append, List.countP_cons, if_pos htarget, hnoneBefore, hnoneAfter]

namespace Schema

/-! ## Items -/

/-- What a column is read as before any rule: its own expression, between parentheses unless it is
atomic; in a view, the column of a table that its name says; or else the column of its name. -/
inductive StartsAs (d : Dialect) (isView : Bool) (c : Column) : Expr → Prop
  | expression {text : String} {e : Statement.Expr} (hc : c.expression = some text)
    (hread : Statement.parseExpr .generic text = .ok e) :
    StartsAs d isView c (if e.isAtomic then .raw e.text else .paren (.raw e.text))
  | qualified {table column : String} (hc : c.expression = none) (hview : isView = true)
    (hname : Qualified c.name (table, column)) :
    StartsAs d isView c (.column (some (d.foldIdentifier table)) (d.foldIdentifier column))
  | plain (hc : c.expression = none) (hname : isView = true → ∀ parts, ¬ Qualified c.name parts) :
    StartsAs d isView c (.column none (d.foldIdentifier c.name))

/-- A transformation gives a column a new name. -/
def Renames (c : Column) (t : Transformation) (name : String) : Prop :=
  t.targets c.name = true ∧ t.rule = .rename name

/-- The name of the item of a column, with the first of these that there is: the new name of the last
renaming; its alias; its folded name, for an expression; its folded table and name, in a view; its
folded name, if any rule is applied. -/
inductive NamedAs (d : Dialect) (isView : Bool) (ts : List Transformation) (c : Column) :
    Option String → Prop
  | renamed {before after : List Transformation} {t : Transformation} {name : String}
    (hts : ts = before ++ t :: after) (ht : Renames c t name)
    (hlast : ∀ t' ∈ after, ∀ name', ¬ Renames c t' name') : NamedAs d isView ts c (some name)
  | own {name : String} (hts : ∀ t ∈ ts, ∀ name', ¬ Renames c t name') (hc : c.asName = some name) :
    NamedAs d isView ts c (some name)
  | expression {text : String} (hts : ∀ t ∈ ts, ∀ name', ¬ Renames c t name') (hown : c.asName = none)
    (hc : c.expression = some text) : NamedAs d isView ts c (some (d.foldIdentifier c.name))
  | qualified {table column : String} (hts : ∀ t ∈ ts, ∀ name', ¬ Renames c t name')
    (hown : c.asName = none) (hc : c.expression = none) (hview : isView = true)
    (hname : Qualified c.name (table, column)) :
    NamedAs d isView ts c (some (d.foldIdentifier (table ++ "_" ++ column)))
  | changed (hts : ∀ t ∈ ts, ∀ name', ¬ Renames c t name') (hown : c.asName = none)
    (hc : c.expression = none) (hname : isView = true → ∀ parts, ¬ Qualified c.name parts)
    (htargets : ∃ t ∈ ts, t.targets c.name = true) :
    NamedAs d isView ts c (some (d.foldIdentifier c.name))
  | unchanged (hown : c.asName = none) (hc : c.expression = none)
    (hname : isView = true → ∀ parts, ¬ Qualified c.name parts)
    (htargets : ∀ t ∈ ts, t.targets c.name = false) : NamedAs d isView ts c none

/-- The rules that are applied to a column, in order. -/
def rulesFor (s : Schema) (c : Column) : List Rule :=
  (s.transformations.filter fun t => t.targets c.name).map (·.rule)

/-- The item of a column in a select list. -/
structure IsItem (d : Dialect) (s : Schema) (c : Column) (item : Expr × Option String) : Prop where
  expr : ∃ start, StartsAs d s.source.isView c start ∧
    item.1 = (s.rulesFor c).foldl (Rule.apply d) start
  name : NamedAs d s.source.isView s.transformations c item.2

variable {d : Dialect} {isView : Bool} {ts : List Transformation} {c : Column}

/-! ## Names -/

/-- The new name that a transformation gives to a column. -/
def rename? (c : Column) (t : Transformation) : Option String :=
  if t.targets c.name then t.rule.newName? else none

/-- A transformation that targets a column and gives a name renames it. -/
theorem rename?_eq_some_iff {t : Transformation} {name : String} :
    rename? c t = some name ↔ Renames c t name := by
  have hrule : t.rule.newName? = some name ↔ t.rule = .rename name := by
    cases t.rule <;> simp [Rule.newName?]
  rw [rename?, Renames, ← hrule]
  split_ifs with htargets
  · simp [htargets]
  · simp [htargets]

/-- The names that the rules of a column give are those of the transformations that rename it. -/
theorem filterMap_newName? : ((ts.filter fun t => t.targets c.name).map (·.rule)).filterMap
    Rule.newName? = ts.filterMap (rename? c) := by
  rw [List.filterMap_map, List.filterMap_filter]
  rfl

/-- A column has no rules exactly if no transformation targets it. -/
theorem isEmpty_rules_iff : ((ts.filter fun t => t.targets c.name).map (·.rule)).isEmpty = true ↔
    ∀ t ∈ ts, t.targets c.name = false := by
  simp [List.filter_eq_nil_iff]

/-- The last new name is that of the last renaming. -/
theorem getLast?_rename?_eq_some {name : String} (h : (ts.filterMap (rename? c)).getLast? = some name) :
    NamedAs d isView ts c (some name) := by
  obtain ⟨names, hnames⟩ := List.getLast?_eq_some_iff.1 h
  obtain ⟨before, rest, rfl, -, hrest⟩ := List.filterMap_eq_append_iff.1 hnames
  obtain ⟨skipped, t, after, rfl, -, ht, hafter⟩ := List.filterMap_eq_cons_iff.1 hrest
  rw [List.filterMap_eq_nil_iff] at hafter
  refine .renamed (List.append_assoc before skipped (t :: after)).symm (rename?_eq_some_iff.1 ht) ?_
  intro t' ht' name' hrenames
  have hnone := hafter t' ht'
  rw [rename?_eq_some_iff.2 hrenames] at hnone
  exact Option.some_ne_none name' hnone

theorem getLast?_rename?_eq_none (h : (ts.filterMap (rename? c)).getLast? = none) :
    ∀ t ∈ ts, ∀ name, ¬ Renames c t name := by
  intro t ht name hrenames
  rw [List.getLast?_eq_none_iff, List.filterMap_eq_nil_iff] at h
  have hnone := h t ht
  rw [rename?_eq_some_iff.2 hrenames] at hnone
  exact Option.some_ne_none name hnone

/-- The name of an item is decided by renamings, then by the alias before any rule, and then by
whether there is a rule at all. -/
theorem namedAs_applyTransformations {start : Expr} {asName : Option String}
    (hsome : ∀ name, asName = some name → (∀ t ∈ ts, ∀ name', ¬ Renames c t name') →
      NamedAs d isView ts c (some name))
    (hnone : asName = none → c.asName = none ∧ c.expression = none ∧
      (isView = true → ∀ parts, ¬ Qualified c.name parts)) :
    NamedAs d isView ts c (applyTransformations d ts c.name asName start).asName := by
  rw [applyTransformations, filterMap_newName?]
  dsimp only
  cases hrenamed : (ts.filterMap (rename? c)).getLast? with
  | some name => exact getLast?_rename?_eq_some hrenamed
  | none =>
    have hts := getLast?_rename?_eq_none hrenamed
    cases asName with
    | some name => exact hsome name rfl hts
    | none =>
      obtain ⟨hown, hc, hname⟩ := hnone rfl
      -- without a name of its own, a changed column is called after itself
      rw [Option.none_or, Option.none_or]
      split_ifs with hempty
      · exact .unchanged hown hc hname (isEmpty_rules_iff.1 hempty)
      · rw [isEmpty_rules_iff] at hempty
        push Not at hempty
        obtain ⟨t, ht, htarget⟩ := hempty
        exact .changed hts hown hc hname ⟨t, ht, by simpa using htarget⟩

/-! ## Select lists -/

/-- Every column starts as what it is read as, and the alias it starts with leads to its name. -/
theorem exists_columnStart (d : Dialect) (isView : Bool) (ts : List Transformation)
    (hexpression : ∀ text, c.expression = some text → IsExpression text) :
    ∃ start asName, columnStart d isView c = .ok (start, asName) ∧ StartsAs d isView c start ∧
      NamedAs d isView ts c (applyTransformations d ts c.name asName start).asName := by
  cases hc : c.expression with
  | some text =>
    obtain ⟨e, he⟩ := exists_parseExpr_eq_ok.2 (hexpression text hc)
    refine ⟨_, some (c.asName.getD (d.foldIdentifier c.name)), ?_, .expression hc he, ?_⟩
    · rw [columnStart, hc]
      dsimp only
      rw [columnExpression, he]
      rfl
    · refine namedAs_applyTransformations (fun name hname hts => ?_) fun hnone =>
        absurd hnone (Option.some_ne_none _)
      cases hname
      cases hown : c.asName with
      | some own => exact .own hts hown
      | none => exact .expression hts hown hc
  | none =>
    -- a dot in a name means a table only in a view
    by_cases hqualified : isView = true ∧ ∃ parts, c.qualifiedParts = some parts
    · obtain ⟨hview, ⟨table, column⟩, hparts⟩ := hqualified
      have hname := qualifiedName?_eq_some_iff.1 hparts
      refine ⟨_, some (c.asName.getD (d.foldIdentifier (table ++ "_" ++ column))), ?_,
        .qualified hc hview hname, ?_⟩
      · simp only [columnStart, hc, hparts, hview, if_true]
        rfl
      · refine namedAs_applyTransformations (fun name hname' hts => ?_) fun hnone =>
          absurd hnone (Option.some_ne_none _)
        cases hname'
        cases hown : c.asName with
        | some own => exact .own hts hown
        | none => exact .qualified hts hown hc hview hname
    · have hname (hview : isView = true) (parts : TableColumn) : ¬ Qualified c.name parts :=
        fun h => hqualified ⟨hview, parts, qualifiedName?_eq_some_iff.2 h⟩
      refine ⟨_, c.asName, ?_, .plain hc hname, ?_⟩
      · unfold columnStart
        rw [hc]
        cases hparts : c.qualifiedParts with
        | none => rfl
        | some parts =>
          have hview : ¬ isView = true := fun hview => hqualified ⟨hview, parts, hparts⟩
          exact if_neg hview
      · exact namedAs_applyTransformations (fun name hown hts => .own hts hown)
          fun hown => ⟨hown, hc, hname⟩

/-- Every column whose expression can be read has an item. -/
theorem exists_selectItem {s : Schema} (d : Dialect) {c : Column}
    (hexpression : ∀ text, c.expression = some text → IsExpression text) :
    ∃ item, selectItem d s c = .ok item ∧ IsItem d s c item := by
  obtain ⟨start, asName, hread, hstart, hname⟩ :=
    exists_columnStart d s.source.isView s.transformations hexpression
  refine ⟨_, bind_eq_ok.2 ⟨(start, asName), hread, rfl⟩, ⟨start, hstart, rfl⟩, hname⟩

/-- For every schema that is built with columns, and every dialect, the select list has one item for
each column, in order: what the column is read as, with the rules that target it applied in order,
under the name that the column gets. A transformation with a target is applied to one item. -/
theorem selectList_items {b : SchemaDraft} {s : Schema} (h : b.build = .ok s) (hne : s.columns ≠ [])
    (d : Dialect) :
    ∃ items, selectList d s = .ok items ∧ List.Forall₂ (IsItem d s) s.columns items ∧
      ∀ t ∈ s.transformations, ∀ name, t.column = some name →
        s.columns.countP (fun c => t.targets c.name) = 1 := by
  obtain ⟨hvalid, hbecomes⟩ := build_eq_ok_iff_becomes.1 h
  have hcolumns := hbecomes.columns
  have hitem : ∀ c ∈ s.columns, ∃ item, selectItem d s c = .ok item ∧ IsItem d s c item := by
    intro c hc
    rw [hcolumns] at hc
    exact exists_selectItem d (hvalid.expressions c hc)
  obtain ⟨items, hread, hitems⟩ := exists_mapM_eq_ok hitem
  -- no columns at all would select everything
  have hempty : items.isEmpty = false := by
    rw [List.isEmpty_eq_false_iff, ← List.length_pos_iff, ← hitems.length_eq]
    exact List.length_pos_iff.2 hne
  refine ⟨items, bind_eq_ok.2 ⟨items, hread, ?_⟩, hitems, ?_⟩
  · rw [hempty]
    rfl
  · intro t ht name hname
    rw [hbecomes.transformations] at ht
    rw [hcolumns] at hne ⊢
    exact Transformation.countP_targets hvalid.columnsDiffer hname
      ((hvalid.targets hne t ht).1 name hname)

/-- A view with a computed column, and a column of a joined table that is renamed. -/
def renamedView : SchemaDraft :=
  { name := "Orders"
    source := .view [{ source := "orders.customer", target := "customers.id" }]
    columns := [{ name := "orders.total", type := .float, expression := some "total + 1" },
      { name := "customers.name", type := .string }]
    transformations := [⟨some "CUSTOMERS.name", .strip, []⟩,
      ⟨some "customers.NAME", .rename "Customer", []⟩] }

/-- An item as it is written. -/
def writtenItem (d : Dialect) (item : Expr × Option String) : Option String × Option String :=
  ((render d (item.1.tokens d)).toOption, item.2)

/-- The computed column stands between parentheses and is named after the column; the column of the
joined table is trimmed, and has its new name. -/
theorem selectList_items_renamed : ∃ s, renamedView.build = .ok s ∧ s.columns ≠ [] ∧
    ∃ items, selectList .postgres s = .ok items ∧
      List.Forall₂ (IsItem .postgres s) s.columns items ∧
      (∀ t ∈ s.transformations, ∀ name, t.column = some name →
        s.columns.countP (fun c => t.targets c.name) = 1) ∧
      items.map (writtenItem .postgres) = [(some "(total + 1)", some "orders.total"),
        (some "TRIM(\"customers\".\"name\")", some "Customer")] := by
  have hrun : (renamedView.build.toOption.bind fun s =>
      (selectList .postgres s).toOption.map (List.map (writtenItem .postgres))) =
      some [(some "(total + 1)", some "orders.total"),
        (some "TRIM(\"customers\".\"name\")", some "Customer")] := by
    decide +kernel
  obtain ⟨s, hs, hlist⟩ := Option.bind_eq_some_iff.1 hrun
  obtain ⟨items, hitems, hwritten⟩ := Option.map_eq_some_iff.1 hlist
  rw [toOption_eq_some] at hs hitems
  have hne : s.columns ≠ [] := by
    rw [(build_eq_ok_iff_becomes.1 hs).2.columns]
    exact List.cons_ne_nil _ _
  obtain ⟨items', hitems', hisItem, htargets⟩ := selectList_items hs hne .postgres
  obtain rfl : items = items' := Except.ok.inj (hitems.symm.trans hitems')
  exact ⟨s, hs, hne, items, hitems, hisItem, htargets, hwritten⟩

end Schema

end DatasetSql
