import DatasetSql.Proofs.Names
import DatasetSql.Proofs.Outcome

/-!
# Accepted drafts

A draft becomes a schema exactly if it is `Valid`. What comes out holds the columns, the source,
the transformations, the grouping, the limit and the description of the draft unchanged, under the
cleaned name, with its sort keys read and the joins of a view planned.
-/

namespace DatasetSql.SchemaDraft

/-! ## What is asked of a draft -/

/-- Whether the lexemes of a text are one expression, after which nothing is left. -/
def IsExpression (text : String) : Prop :=
  ∃ ls e, Statement.lex .generic text = some ls ∧
    (Statement.Parser.nested .generic false Statement.Parser.maxDepth).expr 0 ls = .ok (e, [])

/-- Whether a column is declared, up to ASCII case. -/
def Declares (columns : List Column) (name : String) : Prop :=
  ∃ c ∈ columns, Text.eqIgnoreCase c.name name = true

/-- The tables that the columns of a view are qualified with. -/
def columnTables (columns : List Column) : List String :=
  columns.filterMap fun c => c.qualifiedParts.map (·.1)

/-- What is asked of a source, and the plan it gets: a file has a path, a relational source has a
table, a host and a database, and the links of a view connect the tables of all its columns. -/
inductive Planned (columns : List Column) : DatasetSource → Option ViewPlan → Prop where
  | file {format : FileFormat} {path : String} (hpath : Text.isBlankText path = false) :
    Planned columns (.file format path) none
  | relational {engine : Engine} {connection : Connection} {table : String}
      (htable : Text.isBlankText table = false)
      (hhost : Text.isBlankText connection.host = false)
      (hdatabase : Text.isBlankText connection.database = false) :
    Planned columns (.relational engine connection table) none
  | view {links : List Link} {plan : ViewPlan}
      (hplan : ViewPlan.ofLinks links (columnTables columns) = .ok plan)
      (htables : ∀ c ∈ columns, ∀ parts, c.qualifiedParts = some parts → parts.1 ∈ plan.tables) :
    Planned columns (.view links) (some plan)

/-- What a draft must satisfy to become a schema. -/
structure Valid (b : SchemaDraft) : Prop where
  name : ∃ clean, Cleans b.name clean ∧ ∃ c cs, clean.toList = c :: cs ∧ c.isDigit = false
  limit : b.limit ≠ some 0
  columnNames : ∀ c ∈ b.columns, Text.isBlankText c.name = false
  columnsDiffer : b.columns.Pairwise fun c c' => Text.eqIgnoreCase c.name c'.name = false
  expressions : ∀ c ∈ b.columns, ∀ text, c.expression = some text → IsExpression text
  groups : ∀ entry ∈ b.groupBy, Text.isBlankText entry = false ∧
    ∀ c ∈ b.columns, Text.eqIgnoreCase c.name entry = true → c.expression = none
  targets : b.columns ≠ [] → ∀ t ∈ b.transformations,
    (∀ name, t.column = some name → Declares b.columns name) ∧
      ∀ names, t.rule = .removeDuplicates names → ∀ name ∈ names, Declares b.columns name
  order : ∀ entry ∈ b.orderBy, ∃ k : SortKey, k.Written entry
  source : ∃ plan, Planned b.columns b.source plan

/-- What is in the schema of a draft. -/
structure Becomes (b : SchemaDraft) (s : Schema) : Prop where
  name : Cleans b.name s.name
  nameLength : s.name.length ≤ 64
  nameChars : ∀ c ∈ s.name.toList, ('a' ≤ c ∧ c ≤ 'z') ∨ ('0' ≤ c ∧ c ≤ '9') ∨ c = '_'
  description : s.description = b.description
  columns : s.columns = b.columns
  source : s.source = b.source
  transformations : s.transformations = b.transformations
  groupBy : s.groupBy = b.groupBy
  orderBy : List.Forall₂ (fun entry k => SortKey.Written k entry) b.orderBy s.orderBy
  limit : s.limit = b.limit
  plan : Planned b.columns b.source s.plan

/-! ## The checks one by one -/

/-- Of a cleaned name only the first character is in question. -/
theorem isValidName_cleanName_iff {name : String} : isValidName (cleanName name) = true ↔
    ∃ clean, Cleans name clean ∧ ∃ c cs, clean.toList = c :: cs ∧ c.isDigit = false := by
  simp only [cleans_iff, exists_eq_left]
  -- the characters of a cleaned name need no further check, only the first one may be a digit
  have hchars := fun c => @isNameChar_of_mem_cleanName name c
  unfold isValidName
  split
  next h => simp [h]
  next c cs h =>
    rw [h] at hchars
    simp only [List.mem_cons, forall_eq_or_imp] at hchars
    obtain ⟨hc, hcs⟩ := hchars
    simp [h, hc, List.all_eq_true.2 hcs]

/-- A text is read as an expression exactly if it is cut into lexemes that the grammar reads to
their end. -/
theorem exists_parseExpr_eq_ok {text : String} :
    (∃ e, Statement.parseExpr .generic text = .ok e) ↔ IsExpression text := by
  unfold IsExpression Statement.parseExpr Statement.runOn
  cases Statement.lex .generic text with
  | none => simp
  | some ls =>
    simp only [map_fst_eq_ok, Option.some.injEq, exists_and_left, exists_eq_left']
    refine exists_congr fun e => ⟨?_, ?_⟩
    · rintro ⟨rest, h⟩
      obtain ⟨⟨e', left⟩, hread, hend⟩ := bind_eq_ok.1 h
      cases left with
      | nil =>
        cases hend
        exact hread
      | cons l left => exact nomatch hend
    · intro h
      exact ⟨[], bind_eq_ok.2 ⟨(e, []), h, rfl⟩⟩

/-- The check of a column's expression passes exactly on texts that are expressions. -/
theorem checkExpression_eq_ok {column text : String} :
    checkExpression column text = .ok () ↔ IsExpression text := by
  rw [← exists_parseExpr_eq_ok, checkExpression]
  cases h : Statement.parseExpr .generic text with
  | ok e => simp
  | error e => cases e <;> simp

/-- A column passes the check against the earlier ones if it has a name, no earlier column has that
name up to the case of letters, and its expression is one. -/
theorem checkColumn_eq_ok {schema : String} {earlier : List Column} {c : Column} :
    checkColumn schema earlier c = .ok () ↔
      Text.isBlankText c.name = false ∧
        (∀ c' ∈ earlier, Text.eqIgnoreCase c'.name c.name = false) ∧
        ∀ text, c.expression = some text → IsExpression text := by
  refine guard_eq_ok.trans (and_congr (by simp) (guard_eq_ok.trans (and_congr ?_ ?_)))
  · simp [Column.isNamed]
  · cases c.expression with
    | none => simp; rfl
    | some text => simpa using checkExpression_eq_ok

/-- All columns pass the check, each against those before it, exactly if each has a name of its own
and every expression is one. -/
theorem checkColumns_eq_ok {schema : String} {earlier columns : List Column} :
    checkColumns schema earlier columns = .ok () ↔
      (∀ c ∈ columns, Text.isBlankText c.name = false) ∧
      columns.Pairwise (fun c c' => Text.eqIgnoreCase c.name c'.name = false) ∧
      (∀ c' ∈ earlier, ∀ c ∈ columns, Text.eqIgnoreCase c'.name c.name = false) ∧
      ∀ c ∈ columns, ∀ text, c.expression = some text → IsExpression text := by
  -- a column is compared with those before it, which grow by one column at each step
  induction columns generalizing earlier with
  | nil => simp [checkColumns]
  | cons c columns ih =>
    rw [checkColumns, bind_unit_eq_ok, checkColumn_eq_ok, ih]
    simp only [List.forall_mem_cons, List.pairwise_cons, List.mem_append, List.mem_singleton,
      or_imp, forall_and, forall_eq]
    tauto

/-- An entry of the grouping passes if it is not blank and no computed column goes by its name. -/
theorem checkGroup_eq_ok {schema : String} {columns : List Column} {entry : String} :
    checkGroup schema columns entry = .ok () ↔
      Text.isBlankText entry = false ∧
        ∀ c ∈ columns, Text.eqIgnoreCase c.name entry = true → c.expression = none := by
  refine guard_eq_ok.trans (and_congr (by simp) (guard_eq_ok.trans ?_))
  simp only [Column.isNamed, List.any_eq_true, Bool.and_eq_true, not_exists, not_and,
    Bool.not_eq_true, Option.isSome_eq_false_iff, Option.isNone_iff_eq_none]
  exact and_iff_left rfl

/-- A transformation passes if the columns that it names are declared. -/
theorem checkTransformation_eq_ok {schema : String} {columns : List Column} {t : Transformation} :
    checkTransformation schema columns t = .ok () ↔
      (∀ name, t.column = some name → Declares columns name) ∧
        ∀ names, t.rule = .removeDuplicates names → ∀ name ∈ names, Declares columns name := by
  have hdeclares (name : String) : columns.any (·.isNamed name) = true ↔ Declares columns name := by
    simp [Declares, Column.isNamed]
  -- one search covers the target column and the columns that a rule lists
  have hnamed : checkTransformation schema columns t = .ok () ↔
      ∀ name ∈ namedColumns t, Declares columns name := by
    unfold checkTransformation
    split
    next missing h =>
      refine iff_of_false (fun h => nomatch h) fun hall => ?_
      have hmissing := List.find?_some h
      rw [Bool.not_eq_true', ← Bool.not_eq_true, hdeclares] at hmissing
      exact hmissing (hall missing (List.mem_of_find?_eq_some h))
    next h =>
      refine iff_of_true rfl fun name hname => ?_
      rw [← hdeclares]
      simpa using List.find?_eq_none.1 h name hname
  rw [hnamed, namedColumns]
  simp only [List.mem_append, or_imp, forall_and, Option.mem_toList]
  refine and_congr Iff.rfl ?_
  split
  next names hrule => simp [hrule]
  next hrule =>
    refine iff_of_true (List.forall_mem_nil _) fun names h => ?_
    exact absurd h (hrule names)

/-- An entry of the order is read as a sort key exactly if it is one of the ways to write that
key. -/
theorem readOrder_eq_ok {schema entry : String} {k : SortKey} :
    readOrder schema entry = .ok k ↔ k.Written entry := by
  rw [← SortKey.read?_eq_some_iff, readOrder]
  cases SortKey.read? entry <;> simp

/-- No table of a column is missing from a plan. -/
theorem find?_columnTables_eq_none {columns : List Column} {plan : ViewPlan} :
    ((columnTables columns).find? fun t => !plan.contains t) = none ↔
      ∀ c ∈ columns, ∀ parts, c.qualifiedParts = some parts → parts.1 ∈ plan.tables := by
  have htable (t : String) : ¬ (!plan.contains t) = true ↔ t ∈ plan.tables := by
    simp [ViewPlan.contains]
  rw [List.find?_eq_none]
  simp only [htable, columnTables, List.mem_filterMap, Option.map_eq_some_iff]
  constructor
  · intro h c hc parts hparts
    exact h parts.1 ⟨c, hc, parts, hparts, rfl⟩
  · rintro h t ⟨c, hc, parts, hparts, rfl⟩
    exact h c hc parts hparts

/-- A source passes the check with the plan that is found for it, and with none if it is no view. -/
theorem checkSource_eq_ok {schema : String} {columns : List Column} {source : DatasetSource}
    {plan : Option ViewPlan} :
    checkSource schema columns source = .ok plan ↔ Planned columns source plan := by
  cases source with
  | file format path =>
    refine guard_eq_ok.trans ?_
    constructor
    · rintro ⟨hpath, h⟩
      cases h
      exact .file (by simpa using hpath)
    · intro h
      cases h with
      | file hpath => exact ⟨by simp [hpath], rfl⟩
  | relational engine connection table =>
    refine guard_eq_ok.trans ((and_congr_right fun _ => guard_eq_ok).trans ?_)
    constructor
    · rintro ⟨htable, hconnection, h⟩
      cases h
      rw [Bool.or_eq_true, not_or] at hconnection
      exact .relational (by simpa using htable) (by simpa using hconnection.1)
        (by simpa using hconnection.2)
    · intro h
      cases h with
      | relational htable hhost hdatabase =>
        exact ⟨by simp [htable], by simp [hhost, hdatabase], rfl⟩
  | view links =>
    -- a view is planned first, then every qualified column has to be of a planned table
    rw [checkSource, ← columnTables]
    constructor
    · intro h
      split at h
      next => exact nomatch h
      next p hp =>
        split at h
        next => exact nomatch h
        next hstray =>
          cases h
          exact .view hp (find?_columnTables_eq_none.1 hstray)
    · intro h
      cases h with
      | view hplan htables =>
        simp only [hplan, find?_columnTables_eq_none.2 htables]

/-! ## The whole check -/

/-- The schema that a draft becomes once its sort keys are read and its joins are planned. -/
def frozen (b : SchemaDraft) (orderBy : List SortKey) (plan : Option ViewPlan) : Schema where
  name := cleanName b.name
  description := b.description
  columns := b.columns
  source := b.source
  transformations := b.transformations
  groupBy := b.groupBy
  orderBy := orderBy
  limit := b.limit
  plan := plan

/-- A draft is built in seven steps, each of which must succeed. -/
theorem build_eq_ok {b : SchemaDraft} {s : Schema} : b.build = .ok s ↔
    isValidName (cleanName b.name) = true ∧ b.limit ≠ some 0 ∧
      checkColumns (cleanName b.name) [] b.columns = .ok () ∧
      b.groupBy.forM (checkGroup (cleanName b.name) b.columns) = .ok () ∧
      (b.columns ≠ [] →
        b.transformations.forM (checkTransformation (cleanName b.name) b.columns) = .ok ()) ∧
      ∃ orderBy, b.orderBy.mapM (readOrder (cleanName b.name)) = .ok orderBy ∧
        ∃ plan, checkSource (cleanName b.name) b.columns b.source = .ok plan ∧
          s = b.frozen orderBy plan := by
  unfold build
  dsimp only
  -- one line for each step, in the order of the checks
  refine guard_eq_ok.trans (and_congr (by simp) ?_)
  refine guard_eq_ok.trans (and_congr Iff.rfl ?_)
  refine bind_unit_eq_ok.trans (and_congr_right fun _ => ?_)
  refine bind_unit_eq_ok.trans (and_congr_right fun _ => ?_)
  refine when_eq_ok.trans (and_congr (by simp) ?_)
  refine bind_eq_ok.trans (exists_congr fun orderBy => and_congr_right fun _ => ?_)
  refine bind_eq_ok.trans (exists_congr fun plan => and_congr_right fun _ => ?_)
  exact ⟨fun h => (Except.ok.inj h).symm, fun h => congrArg Except.ok h.symm⟩

/-- Only the sort keys and the plan of a schema are not given by its draft at once. -/
theorem becomes_iff {b : SchemaDraft} {s : Schema} : b.Becomes s ↔
    ∃ orderBy, List.Forall₂ (fun entry k => SortKey.Written k entry) b.orderBy orderBy ∧
      ∃ plan, Planned b.columns b.source plan ∧ s = b.frozen orderBy plan := by
  constructor
  · intro h
    obtain ⟨name, description, columns, source, transformations, groupBy, orderBy, limit, plan⟩ := s
    obtain ⟨hname, -, -, rfl, rfl, rfl, rfl, rfl, horder, rfl, hplan⟩ := h
    obtain rfl := cleans_iff.1 hname
    exact ⟨orderBy, horder, plan, hplan, rfl⟩
  · rintro ⟨orderBy, horder, plan, hplan, rfl⟩
    have hchars : ∀ c ∈ (cleanName b.name).toList, _ :=
      fun c hc => isNameChar_iff.1 (isNameChar_of_mem_cleanName hc)
    have hname : Cleans b.name (cleanName b.name) := cleans_iff.2 rfl
    exact ⟨hname, length_cleanName b.name, hchars, rfl, rfl, rfl, rfl, rfl, horder, rfl, hplan⟩

/-- A draft is built exactly if it is valid, and into what it becomes. -/
theorem build_eq_ok_iff_becomes {b : SchemaDraft} {s : Schema} :
    b.build = .ok s ↔ b.Valid ∧ b.Becomes s := by
  rw [build_eq_ok, becomes_iff]
  simp only [isValidName_cleanName_iff, checkColumns_eq_ok, forM_eq_ok, checkGroup_eq_ok,
    checkTransformation_eq_ok, mapM_eq_ok, readOrder_eq_ok, checkSource_eq_ok]
  constructor
  · rintro ⟨hname, hlimit, ⟨hnames, hdiffer, -, hexpressions⟩, hgroups, htargets, keys, hkeys,
      plan, hplan, rfl⟩
    have horder : ∀ entry ∈ b.orderBy, ∃ k : SortKey, k.Written entry :=
      exists_forall₂_iff.1 ⟨keys, hkeys⟩
    exact ⟨⟨hname, hlimit, hnames, hdiffer, hexpressions, hgroups, htargets, horder, plan, hplan⟩,
      keys, hkeys, plan, hplan, rfl⟩
  · rintro ⟨h, keys, hkeys, plan, hplan, rfl⟩
    exact ⟨h.name, h.limit, ⟨h.columnNames, h.columnsDiffer, by simp, h.expressions⟩, h.groups,
      h.targets, keys, hkeys, plan, hplan, rfl⟩

/-- A valid draft becomes a schema. -/
theorem Valid.exists_becomes {b : SchemaDraft} (h : b.Valid) : ∃ s, b.Becomes s := by
  obtain ⟨plan, hplan⟩ := h.source
  obtain ⟨keys, hkeys⟩ := exists_forall₂_iff.2 h.order
  exact ⟨b.frozen keys plan, becomes_iff.2 ⟨keys, hkeys, plan, hplan, rfl⟩⟩

/-- A draft is accepted exactly if it is valid, and what comes out is what it becomes. -/
theorem build_accepts_exactly (b : SchemaDraft) :
    ((∃ s, b.build = .ok s) ↔ b.Valid) ∧ ∀ s, b.build = .ok s ↔ b.Valid ∧ b.Becomes s := by
  refine ⟨⟨?_, ?_⟩, fun s => build_eq_ok_iff_becomes⟩
  · rintro ⟨s, hs⟩
    exact (build_eq_ok_iff_becomes.1 hs).1
  · intro h
    obtain ⟨s, hs⟩ := h.exists_becomes
    exact ⟨s, build_eq_ok_iff_becomes.2 ⟨h, hs⟩⟩

/-- A view of two tables, under a name that has to be cleaned. -/
def viewDraft : SchemaDraft where
  name := "\tÉtat des Ventes: 2024 "
  source := .view [{ source := "orders.customer", target := "customers.id" }]
  columns := [{ name := "orders.total", type := .float, expression := some "total + 1" },
    { name := "customers.name", type := .string }]
  transformations := [⟨some "CUSTOMERS.name", .strip, []⟩]
  groupBy := ["Customers.Name"]
  orderBy := ["total  desc"]
  limit := some 10

/-- A view draft with a name to clean, a sort key and a transformation becomes the schema that it
says; with a limit of zero it is refused. -/
theorem build_accepts_exactly_viewDraft :
    (∃ s, viewDraft.build = .ok s ∧ viewDraft.Becomes s ∧ s.name = "_tat_des_ventes__2024" ∧
      s.orderBy = [⟨"total", some .desc⟩]) ∧
    ¬ { viewDraft with limit := some 0 }.Valid := by
  have hbuild : (viewDraft.build.toOption.map fun s => (s.name, s.orderBy)) =
      some ("_tat_des_ventes__2024", [⟨"total", some .desc⟩]) := by decide +kernel
  have hrefused : { viewDraft with limit := some 0 }.build.toOption.isNone = true := by
    decide +kernel
  obtain ⟨s, hs, hparts⟩ := Option.map_eq_some_iff.1 hbuild
  rw [toOption_eq_some] at hs
  obtain ⟨hname, horder⟩ := Prod.mk.inj hparts
  refine ⟨⟨s, hs, (((build_accepts_exactly viewDraft).2 s).1 hs).2, hname, horder⟩, fun hvalid => ?_⟩
  obtain ⟨s', hs'⟩ := (build_accepts_exactly _).1.2 hvalid
  rw [hs'] at hrefused
  exact nomatch hrefused

end DatasetSql.SchemaDraft
