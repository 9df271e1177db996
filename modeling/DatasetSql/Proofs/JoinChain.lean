import DatasetSql.Proofs.Compilation
import DatasetSql.Proofs.Parts

/-!
# The joins of views

The links of a view are planned one after the other, and each must bring exactly one new table. So
every join compares a column of the table it brings with a column of a table before it, and no table
is planned twice. The clause that is compiled from a plan has the same joins under folded names. It
joins no name twice exactly if folding keeps the names of the planned tables apart.
-/

namespace DatasetSql

open Emit SchemaDraft

/-- The two ends of a link are qualified names of different tables. -/
theorem Link.ends_eq_ok {l : Link} {left right : TableColumn} : l.ends = .ok (left, right) ↔
    qualifiedName? l.source = some left ∧ qualifiedName? l.target = some right ∧
      left.1 ≠ right.1 := by
  unfold Link.ends
  split
  next h => simp [h]
  next h => simp [h]
  next hsource htarget =>
    refine guard_eq_ok.trans ?_
    simp only [hsource, htarget, Option.some.injEq, beq_iff_eq, Except.ok.injEq, Prod.mk.injEq]
    constructor
    · rintro ⟨hne, rfl, rfl⟩
      exact ⟨rfl, rfl, hne⟩
    · rintro ⟨rfl, rfl, hne⟩
      exact ⟨hne, rfl, rfl⟩

namespace ViewPlan

/-! ## Plans -/

/-- A cut of a list with one more element is at this element, or it is a cut of the list. -/
theorem cut_of_append_singleton {α : Type} {xs before after : List α} {x y : α}
    (h : xs ++ [x] = before ++ y :: after) :
    xs = before ∧ x = y ∨ ∃ rest, xs = before ++ y :: rest := by
  rcases List.eq_nil_or_concat after with rfl | ⟨rest, last, rfl⟩
  · obtain ⟨hxs, hx⟩ := List.append_inj' h rfl
    exact .inl ⟨hxs, (List.cons.inj hx).1⟩
  · rw [List.concat_eq_append, ← List.cons_append, ← List.append_assoc] at h
    exact .inr ⟨rest, (List.append_inj' h rfl).1⟩

/-- The table that two columns bring to some tables: one of their two tables is among these, and the
other one is new. -/
inductive Brings (tables : List String) (left right : TableColumn) : String → Prop where
  | right (hleft : left.1 ∈ tables) (hright : right.1 ∉ tables) : Brings tables left right right.1
  | left (hleft : left.1 ∉ tables) (hright : right.1 ∈ tables) : Brings tables left right left.1

/-- A step brings a table that was not there before. -/
theorem Brings.not_mem {tables : List String} {left right : TableColumn} {table : String}
    (h : Brings tables left right table) : table ∉ tables := by
  cases h with
  | right _ hright => exact hright
  | left hleft _ => exact hleft

/-- The plan with one more join. -/
def joined (p : ViewPlan) (step : JoinStep) : ViewPlan := { p with joins := p.joins ++ [step] }

@[simp] theorem tables_joined {p : ViewPlan} {step : JoinStep} :
    (p.joined step).tables = p.tables ++ [step.table] := by
  simp [tables, joined]

theorem contains_eq_true {p : ViewPlan} {table : String} :
    p.contains table = true ↔ table ∈ p.tables :=
  List.contains_iff_mem

/-- A link extends a plan exactly if it brings a table, and by the join of that table. -/
theorem extend_eq_ok {p q : ViewPlan} {l : Link} : p.extend l = .ok q ↔
    ∃ left right table, l.ends = .ok (left, right) ∧ Brings p.tables left right table ∧
      q = p.joined ⟨table, left, right⟩ := by
  unfold extend
  rw [bind_eq_ok]
  constructor
  · rintro ⟨⟨left, right⟩, hends, h⟩
    refine ⟨left, right, ?_⟩
    dsimp only at h
    -- the other two outcomes of the look-ups are errors
    split at h
    next hleft hright =>
      cases h
      rw [← Bool.not_eq_true, contains_eq_true] at hright
      exact ⟨right.1, hends, .right (contains_eq_true.1 hleft) hright, rfl⟩
    next hleft hright =>
      cases h
      rw [← Bool.not_eq_true, contains_eq_true] at hleft
      exact ⟨left.1, hends, .left hleft (contains_eq_true.1 hright), rfl⟩
    next => exact nomatch h
    next => exact nomatch h
  · rintro ⟨left, right, table, hends, hbrings, rfl⟩
    refine ⟨(left, right), hends, ?_⟩
    cases hbrings with
    | right hleft hright =>
      rw [← contains_eq_true] at hleft hright
      simp only [hleft, Bool.eq_false_iff.2 hright]
      rfl
    | left hleft hright =>
      rw [← contains_eq_true] at hleft hright
      simp only [hright, Bool.eq_false_iff.2 hleft]
      rfl

/-- The plans that grow from one table by joins, each of which brings a table. -/
inductive Connected : ViewPlan → Prop where
  | base (table : String) : Connected ⟨table, []⟩
  | join {p : ViewPlan} {left right : TableColumn} {table : String} (hp : Connected p)
      (h : Brings p.tables left right table) : Connected (p.joined ⟨table, left, right⟩)

variable {p q : ViewPlan}

/-- A link keeps a plan connected: the table that it brings is joined to one that is there. -/
theorem Connected.extend (hp : p.Connected) {l : Link} (h : p.extend l = .ok q) : q.Connected := by
  obtain ⟨left, right, table, -, hbrings, rfl⟩ := extend_eq_ok.1 h
  exact .join hp hbrings

/-- Links that are followed one after the other keep a plan connected. -/
theorem Connected.foldlM_extend (hp : p.Connected) {links : List Link}
    (h : links.foldlM ViewPlan.extend p = .ok q) : q.Connected := by
  induction links generalizing p with
  | nil =>
    cases h
    exact hp
  | cons l links ih =>
    rw [List.foldlM_cons] at h
    obtain ⟨p', hp', h⟩ := bind_eq_ok.1 h
    exact ih (hp.extend hp') h

theorem connected_of_planWithoutLinks {fallback : List String}
    (h : planWithoutLinks fallback = .ok p) : p.Connected := by
  unfold planWithoutLinks at h
  split at h
  next table _ =>
    cases h
    exact .base table
  next => exact nomatch h
  next => exact nomatch h

/-- Every view is planned as such a chain. -/
theorem connected_of_ofLinks {links : List Link} {fallback : List String}
    (h : ofLinks links fallback = .ok p) : p.Connected := by
  cases links with
  | nil => exact connected_of_planWithoutLinks h
  | cons first rest =>
    obtain ⟨⟨left, right⟩, hends, h⟩ := bind_eq_ok.1 h
    -- the first link brings its right table to its left one
    have hne := (Link.ends_eq_ok.1 hends).2.2
    have hfirst : Brings [left.1] left right right.1 :=
      .right (List.mem_singleton_self _) fun hmem => hne (List.mem_singleton.1 hmem).symm
    exact Connected.foldlM_extend (.join (.base left.1) hfirst) h

/-- A connected plan has no table twice. -/
theorem Connected.nodup_tables (h : p.Connected) : p.tables.Nodup := by
  induction h with
  | base table => exact List.nodup_singleton table
  | join _ hbrings ih =>
    rw [tables_joined, ← List.concat_eq_append, List.nodup_concat]
    exact ⟨hbrings.not_mem, ih⟩

/-- Every join brings its table to the tables before it. -/
theorem Connected.brings (h : p.Connected) {before after : List JoinStep} {step : JoinStep}
    (hjoins : p.joins = before ++ step :: after) :
    Brings (ViewPlan.tables ⟨p.base, before⟩) step.left step.right step.table := by
  induction h generalizing after with
  | base table =>
    have hnil : [] = before ++ step :: after := hjoins
    simp at hnil
  | @join p left right table _ hbrings ih =>
    have hjoins : p.joins ++ [⟨table, left, right⟩] = before ++ step :: after := hjoins
    -- the join is the last one, or one of the plan before
    rcases cut_of_append_singleton hjoins with ⟨rfl, rfl⟩ | ⟨rest, hjoins⟩
    · exact hbrings
    · exact ih hjoins

end ViewPlan

/-! ## Clauses -/

namespace Emit.Expr

/-- A table qualifies a column of an expression, or all its columns. -/
def IsQualifiedBy (e : Expr) (table : String) : Prop :=
  .star (some table) ∈ e.parts ∨ ∃ name, .column (some table) name ∈ e.parts

variable {e a : Expr} {table : String}

/-- Rules bring no columns of their own. -/
theorem IsQualifiedBy.of_builtOn (h : a.IsQualifiedBy table) (ha : Rule.BuiltOn e a) :
    e.IsQualifiedBy table := by
  rcases h with hstar | ⟨name, hcolumn⟩
  · exact .inl ((ha _ hstar).resolve_right fun hadded => hadded)
  · exact .inr ⟨name, (ha _ hcolumn).resolve_right fun hadded => hadded⟩

end Emit.Expr

namespace Schema

/-- The tables that a clause names, in order. -/
def clauseTables (c : FromClause) : List TableRef :=
  (match c.1 with
    | .table ref => [ref]
    | .call .. | .subquery .. => []) ++ c.2.map (·.1)

/-- A condition equates a column of a table with a column of an earlier one. -/
def Equates (earlier : List TableRef) (table : TableRef) (condition : Expr) : Prop :=
  ∃ left leftColumn right rightColumn,
    condition = .binary (.column (some left) leftColumn) .eq (.column (some right) rightColumn) ∧
      (table = ⟨none, right⟩ ∧ ⟨none, left⟩ ∈ earlier ∨
        table = ⟨none, left⟩ ∧ ⟨none, right⟩ ∈ earlier)

/-- Every name of a table in a clause and in a select list has a meaning where it stands: the
conditions speak of the table that is joined and of one before it, the select list of any. -/
structure Scoped (c : FromClause) (items : List (Expr × Option String)) : Prop where
  conditions : ∀ before table condition after, c.2 = before ++ (table, condition) :: after →
    Equates (clauseTables (c.1, before)) table condition
  columns : ∀ item ∈ items, ∀ table, item.1.IsQualifiedBy table → ⟨none, table⟩ ∈ clauseTables c

variable {d : Dialect} {s : Schema} {plan : ViewPlan}

/-- The clause that reads a planned view. -/
def viewClause (d : Dialect) (plan : ViewPlan) : FromClause :=
  (.table ⟨none, d.foldIdentifier plan.base⟩, plan.joins.map (joinClause d))

@[simp] theorem clauseTables_viewClause :
    clauseTables (viewClause d plan) = plan.tables.map fun t => ⟨none, d.foldIdentifier t⟩ := by
  simp [clauseTables, viewClause, ViewPlan.tables, joinClause]

/-- Every table of a plan is in the clause, by the name that the dialect folds it to. -/
theorem mem_clauseTables_viewClause {table : String} (h : table ∈ plan.tables) :
    ⟨none, d.foldIdentifier table⟩ ∈ clauseTables (viewClause d plan) := by
  rw [clauseTables_viewClause]
  exact List.mem_map_of_mem h

/-- The names of tables stay apart exactly if folding keeps them apart. -/
theorem nodup_clauseTables_iff (hplan : plan.Connected) :
    (clauseTables (viewClause d plan)).Nodup ↔
      ∀ t ∈ plan.tables, ∀ t' ∈ plan.tables, d.foldIdentifier t = d.foldIdentifier t' → t = t' := by
  rw [clauseTables_viewClause, List.nodup_map_iff_inj_on hplan.nodup_tables]
  simp

/-- The condition of a step equates a column of its table with one of an earlier table. -/
theorem equates_joinClause {step : JoinStep}
    (h : ViewPlan.Brings plan.tables step.left step.right step.table) :
    Equates (clauseTables (viewClause d plan)) (joinClause d step).1 (joinClause d step).2 := by
  refine ⟨_, _, _, _, rfl, ?_⟩
  simp only [joinClause]
  generalize step.table = table at h
  cases h with
  | right hleft _ => exact .inl ⟨rfl, mem_clauseTables_viewClause hleft⟩
  | left _ hright => exact .inr ⟨rfl, mem_clauseTables_viewClause hright⟩

/-- Each condition of the clause speaks of the table that is joined and of one before it. -/
theorem conditions_viewClause (hplan : plan.Connected) {before after : List (TableRef × Expr)}
    {table : TableRef} {condition : Expr}
    (h : (viewClause d plan).2 = before ++ (table, condition) :: after) :
    Equates (clauseTables ((viewClause d plan).1, before)) table condition := by
  obtain ⟨steps, rest, hjoins, rfl, hrest⟩ := List.map_eq_append_iff.1 h
  obtain ⟨step, later, rfl, hstep, -⟩ := List.map_eq_cons_iff.1 hrest
  have hequates := equates_joinClause (d := d) (hplan.brings hjoins)
  rw [hstep] at hequates
  exact hequates

/-- Before its transformations, only a column that is named with its table is qualified, and by
that. -/
theorem qualifiedParts_of_columnStart {isView : Bool} {c : Column} {x : Expr × Option String}
    (h : columnStart d isView c = .ok x) {table : String} (hx : x.1.IsQualifiedBy table) :
    ∃ parts, c.qualifiedParts = some parts ∧ table = d.foldIdentifier parts.1 := by
  unfold columnStart at h
  split at h
  next expression _ =>
    obtain ⟨e, he, h⟩ := bind_eq_ok.1 h
    cases h
    unfold columnExpression at he
    split at he
    next parsed _ =>
      cases he
      -- a computed column is raw text, which has no qualifier
      split_ifs at hx <;> simp [Expr.IsQualifiedBy, Expr.parts] at hx
    all_goals cases he
  next qualifier name _ hparts =>
    split_ifs at h
    · cases h
      simp only [Expr.IsQualifiedBy, qualified, Expr.parts, List.mem_singleton, reduceCtorEq,
        Expr.column.injEq, Option.some.injEq, false_or] at hx
      obtain ⟨_, htable, _⟩ := hx
      exact ⟨_, hparts, htable⟩
    · cases h
      simp [Expr.IsQualifiedBy, Expr.col, Expr.parts] at hx
  next =>
    cases h
    simp [Expr.IsQualifiedBy, Expr.col, Expr.parts] at hx

/-- An item is qualified by the table that its column was written with, as the dialect folds it. -/
theorem qualifiedParts_of_selectItem {c : Column} {item : Expr × Option String}
    (h : selectItem d s c = .ok item) {table : String} (hitem : item.1.IsQualifiedBy table) :
    ∃ parts, c.qualifiedParts = some parts ∧ table = d.foldIdentifier parts.1 := by
  obtain ⟨x, hx, h⟩ := bind_eq_ok.1 h
  cases h
  exact qualifiedParts_of_columnStart hx (hitem.of_builtOn (Rule.builtOn_foldl_apply _))

/-- The items of a select list come from the columns; only the star that stands for all columns does
not. -/
theorem mem_selectList {items : List (Expr × Option String)} (h : selectList d s = .ok items)
    {item : Expr × Option String} (hitem : item ∈ items) :
    item = (.star none, none) ∨ ∃ c ∈ s.columns, selectItem d s c = .ok item := by
  obtain ⟨read, hread, h⟩ := bind_eq_ok.1 h
  cases h
  split_ifs at hitem
  · exact .inl (List.mem_singleton.1 hitem)
  · exact .inr ((mem_of_mapM_eq_ok hread).1 hitem)

/-- A view is compiled to a clause that has the planned tables in order, under folded names. Every
name of a table in it, and in the select list, has a meaning where it stands. The tables have
different names exactly if folding keeps the planned names apart: the planner compares them as they
are written. -/
theorem view_scoped_and_nodup_iff {b : SchemaDraft} (h : b.build = .ok s)
    (hmade : ∀ t ∈ b.transformations, ∃ kind params, Transformation.ofKind kind params = .ok t)
    {links : List Link} (hview : s.source = .view links) (d : Dialect) (root : String) :
    ∃ plan c items, s.plan = some plan ∧ s.fromClause d root = .ok c ∧
      selectList d s = .ok items ∧
      clauseTables c = plan.tables.map (fun t => ⟨none, d.foldIdentifier t⟩) ∧ Scoped c items ∧
      ((clauseTables c).Nodup ↔ ∀ t ∈ plan.tables, ∀ t' ∈ plan.tables,
        d.foldIdentifier t = d.foldIdentifier t' → t = t') := by
  have hsound := sound_of_build h hmade
  obtain ⟨items, hitems, -⟩ := hsound.exists_selectList d
  have hplanned := hsound.plan
  rw [hview] at hplanned
  generalize hplan : s.plan = found at hplanned
  cases hplanned with
  | @view _ plan hlinks htables =>
    have hconnected := ViewPlan.connected_of_ofLinks hlinks
    have hclause : s.fromClause d root = .ok (viewClause d plan) := by
      simp only [Schema.fromClause, hview, hplan, viewClause]
    refine ⟨plan, viewClause d plan, items, rfl, hclause, hitems, clauseTables_viewClause, ?_,
      nodup_clauseTables_iff hconnected⟩
    constructor
    · intro before table condition after hjoins
      exact conditions_viewClause hconnected hjoins
    · intro item hitem table htable
      rcases mem_selectList hitems hitem with rfl | ⟨column, hcolumn, hselect⟩
      · simp [Expr.IsQualifiedBy, Expr.parts] at htable
      · -- the table of a qualified column was looked up in the plan when the schema was built
        obtain ⟨parts, hparts, rfl⟩ := qualifiedParts_of_selectItem hselect htable
        exact mem_clauseTables_viewClause (htables column hcolumn parts hparts)

/-- Orders with their items and the products of these; the second link brings its left table. -/
def productsDraft : SchemaDraft :=
  make "Products sold"
    (.view [{ source := "Orders.id", target := "items.order_id" },
      { source := "products.sku", target := "items.sku" }])
    [.columns [{ name := "Orders.id", type := .integer },
        { name := "products.price", type := .float }],
      .transformations [⟨some "products.price", .normalize, [("column", .string "products.price")]⟩]]

/-- A view over three tables joins each to an earlier one, and no name stands there twice. -/
theorem view_scoped_and_nodup_iff_products :
    ∃ s c items, productsDraft.build = .ok s ∧
      (∀ t ∈ productsDraft.transformations,
        ∃ kind params, Transformation.ofKind kind params = .ok t) ∧
      s.source = productsDraft.source ∧ s.fromClause .oracle "." = .ok c ∧
      selectList .oracle s = .ok items ∧
      clauseTables c = [⟨none, "ORDERS"⟩, ⟨none, "ITEMS"⟩, ⟨none, "PRODUCTS"⟩] ∧ Scoped c items ∧
      (clauseTables c).Nodup := by
  have hrun : productsDraft.build.toOption.map (fun s => s.plan.map (·.tables)) =
      some (some ["Orders", "items", "products"]) := by decide +kernel
  obtain ⟨s, hs, htables⟩ := Option.map_eq_some_iff.1 hrun
  rw [toOption_eq_some] at hs
  obtain ⟨plan, hplan, htables⟩ := Option.map_eq_some_iff.1 htables
  have hmade : ∀ t ∈ productsDraft.transformations,
      ∃ kind params, Transformation.ofKind kind params = .ok t := by
    intro t ht
    rw [List.mem_singleton.1 ht]
    exact ⟨.normalize, .object [("column", .string "products.price")], rfl⟩
  have hsource : s.source = productsDraft.source := (build_eq_ok_iff_becomes.1 hs).2.source
  obtain ⟨plan', c, items, hplan', hc, hitems, hnames, hscoped, hnodup⟩ :=
    view_scoped_and_nodup_iff hs hmade hsource .oracle "."
  cases hplan.symm.trans hplan'
  rw [htables] at hnames hnodup
  exact ⟨s, c, items, hs, hmade, hsource, hc, hitems, by rw [hnames]; decide, hscoped,
    hnodup.2 (by decide)⟩

/-- A table that is linked to itself under another spelling. -/
def respelledDraft : SchemaDraft :=
  make "v" (.view [{ source := "Orders.id", target := "orders.parent" }]) []

/-- The planner takes the two spellings for two tables, and every dialect joins one name twice. -/
theorem view_joins_one_name_twice :
    ∃ s, respelledDraft.build = .ok s ∧
      (∀ d root, ∃ c, s.fromClause d root = .ok c ∧ ¬ (clauseTables c).Nodup) ∧
      s.compile { dialect := some .postgres } =
        .ok ("SELECT * FROM \"orders\" JOIN \"orders\" " ++
          "ON \"orders\".\"id\" = \"orders\".\"parent\"") := by
  have hrun : respelledDraft.build.toOption.map (fun s =>
      (s.plan.map (·.tables), (s.compile { dialect := some .postgres }).toOption)) =
      some (some ["Orders", "orders"],
        some ("SELECT * FROM \"orders\" JOIN \"orders\" " ++
          "ON \"orders\".\"id\" = \"orders\".\"parent\"")) := by decide +kernel
  obtain ⟨s, hs, hfound⟩ := Option.map_eq_some_iff.1 hrun
  rw [toOption_eq_some] at hs
  rw [Prod.mk.injEq, toOption_eq_some] at hfound
  obtain ⟨plan, hplan, htables⟩ := Option.map_eq_some_iff.1 hfound.1
  refine ⟨s, hs, fun d root => ⟨viewClause d plan, ?_, ?_⟩, hfound.2⟩
  · have hsource : s.source = respelledDraft.source := (build_eq_ok_iff_becomes.1 hs).2.source
    simp only [Schema.fromClause, hsource, hplan]
    rfl
  -- every dialect folds both spellings to one name
  · rw [clauseTables_viewClause, htables]
    cases d <;> decide

end Schema

end DatasetSql
