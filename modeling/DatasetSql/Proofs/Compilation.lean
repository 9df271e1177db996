import DatasetSql.Compile.Query
import DatasetSql.Proofs.Paths
import DatasetSql.Proofs.Writable

/-!
# How compiling can fail

The compiler looks at expressions, groupings, paths and plans again, although a schema was checked
when it was built. None of that can fail any more. What is left are files that a dialect cannot read
and, at the end, text that does not read as one statement.
-/

namespace DatasetSql

open Emit SchemaDraft

namespace Schema

/-- What the compiler relies on. -/
structure Sound (s : Schema) : Prop where
  expressions : ∀ c ∈ s.columns, ∀ text, c.expression = some text → IsExpression text
  groups : ∀ entry ∈ s.groupBy, ∀ c ∈ s.columns, c.isNamed entry = true → c.expression = none
  plan : Planned s.columns s.source s.plan
  finite : ∀ t ∈ s.transformations, t.rule.IsFinite

/-- A schema that was built is sound; its transformations are made of parameters. -/
theorem sound_of_build {b : SchemaDraft} {s : Schema} (h : b.build = .ok s)
    (hmade : ∀ t ∈ b.transformations, ∃ kind params, Transformation.ofKind kind params = .ok t) :
    s.Sound := by
  obtain ⟨hvalid, hs⟩ := build_eq_ok_iff_becomes.1 h
  constructor
  · rw [hs.columns]
    exact hvalid.expressions
  · rw [hs.columns, hs.groupBy]
    exact fun entry hentry => (hvalid.groups entry hentry).2
  · rw [hs.columns, hs.source]
    exact hs.plan
  · rw [hs.transformations]
    intro t ht
    obtain ⟨kind, params, hread⟩ := hmade t ht
    exact Transformation.isFinite_rule hread

/-- The rows are in a file, and the dialect cannot read files. -/
def Unscannable (s : Schema) (d : Dialect) : Prop :=
  ∃ format path, s.source = .file format path ∧ d.scansFiles = false

/-- How building a part of a statement ends: with a part of which `P` holds, unless there is a file
that the dialect cannot read. -/
inductive Builds (s : Schema) (d : Dialect) {α : Type} (P : α → Prop) : Except CompileError α → Prop
  | refused {format : FileFormat} {path : String} (hsource : s.source = .file format path)
      (hd : d.scansFiles = false) : Builds s d P (.error (.unsupportedFormat s.name format.name d))
  | built {a : α} (hscans : ¬ s.Unscannable d) (ha : P a) : Builds s d P (.ok a)

variable {s : Schema} {d : Dialect}

/-- Steps are done one after the other: if the first builds, and the second gives a result for all
it may give, both together build. -/
theorem Builds.bind {α β : Type} {P : α → Prop} {Q : β → Prop} {x : Except CompileError α}
    {f : α → Except CompileError β} (hx : s.Builds d P x)
    (hf : ∀ a, P a → ∃ b, f a = .ok b ∧ Q b) : s.Builds d Q (x >>= f) := by
  cases hx with
  | refused hsource hd => exact .refused hsource hd
  | @built a hscans ha =>
    obtain ⟨b, hb, hQ⟩ := hf a ha
    have hbind : Except.ok a >>= f = .ok b := hb
    rw [hbind]
    exact .built hscans hQ

/-! ## Parts -/

/-- A table expression and joins whose numbers are finite. -/
def FiniteSource (x : FromClause) : Prop :=
  (∀ a ∈ x.1.atoms, a.IsFinite) ∧ ∀ a ∈ joinAtoms x.2, a.IsFinite

/-- A path that is not blank leads somewhere. -/
theorem exists_resolvePath (root : String) {path : String} (h : Text.isBlankText path = false) :
    ∃ absolute, resolvePath? root path = some absolute := by
  have hpath : path ≠ "" := by
    rintro rfl
    exact nomatch h
  exact ⟨_, resolvePath?_eq_some (.inr hpath)⟩

/-- The source of a sound schema is resolved, unless it is a file that the dialect cannot scan. -/
theorem Sound.fromClause (h : s.Sound) (d : Dialect) (root : String) :
    s.Builds d FiniteSource (s.fromClause d root) := by
  have hplan := h.plan
  unfold Schema.fromClause
  generalize s.plan = plan at hplan ⊢
  cases hsource : s.source with
  | file format path =>
    rw [hsource] at hplan
    cases hplan with
    | file hpath =>
      cases hd : d.scansFiles with
      | false => exact .refused hsource hd
      | true =>
        -- the path of a sound file is not empty, so it has a place
        obtain ⟨absolute, habsolute⟩ := exists_resolvePath root hpath
        simp only [Bool.not_true, Bool.false_eq_true, if_false, habsolute]
        refine .built ?_ ⟨?_, List.forall_mem_nil _⟩
        · rintro ⟨format', path', -, hd'⟩
          rw [hd] at hd'
          cases hd'
        · simp [TableExpr.atoms, listAtoms, Expr.str, Expr.atoms, Atom.IsFinite, Literal.token,
            Token.isWritable]
  | relational engine connection table =>
    refine .built ?_ ⟨List.forall_mem_nil _, List.forall_mem_nil _⟩
    rintro ⟨format, path, hfile, -⟩
    rw [hsource] at hfile
    cases hfile
  | view links =>
    rw [hsource] at hplan
    cases hplan with
    | view =>
      refine .built ?_ ⟨List.forall_mem_nil _, ?_⟩
      · rintro ⟨format, path, hfile, -⟩
        rw [hsource] at hfile
        cases hfile
      · rw [forall_mem_joinAtoms, List.forall_mem_map]
        exact fun step _ => List.forall_mem_nil _

/-- A text that is an expression gives the expression of a column, with finite numbers only. -/
theorem exists_columnExpression {c : Column} {text : String} (h : IsExpression text) :
    ∃ e, columnExpression c text = .ok e ∧ e.IsFinite := by
  obtain ⟨e, he⟩ := exists_parseExpr_eq_ok.2 h
  refine ⟨_, by rw [columnExpression, he], ?_⟩
  split_ifs <;> simp

/-- Every column of a sound schema gives an item, with finite numbers only. -/
theorem Sound.exists_selectItem (h : s.Sound) (d : Dialect) {c : Column} (hc : c ∈ s.columns) :
    ∃ item, selectItem d s c = .ok item ∧ item.1.IsFinite := by
  have hstart : ∃ x, columnStart d s.source.isView c = .ok x ∧ x.1.IsFinite := by
    unfold columnStart
    split
    next expression hexpression =>
      obtain ⟨e, he, hfinite⟩ := exists_columnExpression (h.expressions c hc expression hexpression)
      exact ⟨(e, _), bind_eq_ok.2 ⟨e, he, rfl⟩, hfinite⟩
    next =>
      split_ifs
      · exact ⟨_, rfl, Expr.isFinite_column _ _⟩
      · exact ⟨_, rfl, Expr.isFinite_col _⟩
    next => exact ⟨_, rfl, Expr.isFinite_col _⟩
  obtain ⟨⟨e, asName⟩, hx, hfinite⟩ := hstart
  refine ⟨_, bind_eq_ok.2 ⟨(e, asName), hx, rfl⟩, ?_⟩
  refine Rule.isFinite_foldl_apply (List.forall_mem_map.2 fun t ht => ?_) hfinite
  exact h.finite t (List.mem_filter.1 ht).1

/-- The select list of a sound schema is built, with finite numbers only. -/
theorem Sound.exists_selectList (h : s.Sound) (d : Dialect) :
    ∃ items, selectList d s = .ok items ∧ ∀ a ∈ selectAtoms items, a.IsFinite := by
  obtain ⟨items, hread, hitems⟩ := exists_mapM_eq_ok fun c hc => h.exists_selectItem d hc
  have hfinite : ∀ item ∈ items, item.1.IsFinite := by
    clear hread
    generalize s.columns = columns at hitems
    induction hitems with
    | nil => exact fun item hitem => nomatch hitem
    | cons hitem _ ih => exact List.forall_mem_cons.2 ⟨hitem, ih⟩
  refine ⟨_, bind_eq_ok.2 ⟨items, hread, rfl⟩, ?_⟩
  split_ifs
  · exact fun a ha => nomatch ha
  · exact forall_mem_selectAtoms.2 hfinite

theorem isFinite_reference (d : Dialect) (s : Schema) (name : String) :
    (reference d s name).IsFinite := by
  unfold reference
  split
  · split_ifs
    · exact Expr.isFinite_column _ _
    · exact Expr.isFinite_col _
  · exact Expr.isFinite_col _

/-- The first column with the name of an entry has no expression, because no such column has. -/
theorem Sound.groupItem (h : s.Sound) (d : Dialect) {entry : String} (hentry : entry ∈ s.groupBy) :
    groupItem d s entry = .ok (reference d s entry) := by
  refine if_neg fun hany => ?_
  obtain ⟨c, hc, hexpression⟩ := (Option.any_eq_true _ _).1 hany
  have hnone := h.groups entry hentry c (List.mem_of_find?_eq_some hc) (List.find?_some hc)
  rw [hnone] at hexpression
  exact nomatch hexpression

/-- No entry of the grouping of a sound schema is refused; each becomes a reference. -/
theorem Sound.groups_eq (h : s.Sound) (d : Dialect) :
    s.groupBy.mapM (Schema.groupItem d s) = .ok (s.groupBy.map (reference d s)) := by
  rw [mapM_eq_ok, List.forall₂_map_right_iff, List.forall₂_same]
  exact fun entry hentry => h.groupItem d hentry

/-! ## Queries -/

/-- The query without order and limit is built, or the file cannot be scanned. -/
theorem Sound.baseQuery (h : s.Sound) (d : Dialect) (root : String) :
    s.Builds d Query.IsFinite (s.baseQuery d root) := by
  refine (h.fromClause d root).bind fun source hsource => ?_
  obtain ⟨items, hitems, hfinite⟩ := h.exists_selectList d
  refine ⟨_, bind_eq_ok.2 ⟨items, hitems, bind_eq_ok.2 ⟨_, h.groups_eq d, rfl⟩⟩, ?_⟩
  have hgroups : ∀ a ∈ listAtoms (s.groupBy.map (reference d s)), a.IsFinite :=
    forall_mem_listAtoms.2 (List.forall_mem_map.2 fun entry _ => isFinite_reference d s entry)
  simp only [Query.IsFinite, Query.atoms, List.forall_mem_append]
  exact ⟨⟨⟨⟨hfinite, hsource.1⟩, hsource.2⟩, hgroups⟩, fun a ha => nomatch ha⟩

theorem isFinite_withLimit {q : Query} (h : q.IsFinite) (n : Nat) : (q.withLimit n).IsFinite := by
  cases q
  exact h

theorem isFinite_withOrder {q : Query} (h : q.IsFinite) {keys : List (Expr × Option SortDirection)}
    (hkeys : ∀ a ∈ sortAtoms keys, a.IsFinite) : (q.withOrder keys).IsFinite := by
  cases q
  exact List.forall_mem_append.2 ⟨(List.forall_mem_append.1 h).1, hkeys⟩

/-- The query of the whole schema is built, or the file cannot be scanned. -/
theorem Sound.fullQuery (h : s.Sound) (d : Dialect) (root : String) :
    s.Builds d Query.IsFinite (s.fullQuery d root) := by
  refine (h.baseQuery d root).bind fun q hq => ⟨_, rfl, ?_⟩
  have hkeys : ∀ a ∈ sortAtoms (s.orderBy.map fun o => (reference d s o.column, o.direction)),
      a.IsFinite :=
    forall_mem_sortAtoms.2 (List.forall_mem_map.2 fun o _ => isFinite_reference d s o.column)
  have hsorted := isFinite_withOrder hq hkeys
  split
  · exact isFinite_withLimit hsorted _
  · exact hsorted

theorem Sound.headQuery (h : s.Sound) (d : Dialect) (root : String) (rows : Nat) :
    s.Builds d Query.IsFinite (s.headQuery d root rows) :=
  (h.baseQuery d root).bind fun _ hq => ⟨_, rfl, isFinite_withLimit hq rows⟩

theorem isFinite_ofSource {table : TableExpr} {joins : List (TableRef × Expr)}
    (h : FiniteSource (table, joins)) :
    (Query.ofSource [(.countStar, none)] table joins).IsFinite := by
  simp only [Query.IsFinite, Query.ofSource, Query.atoms, List.forall_mem_append]
  refine ⟨⟨⟨⟨?_, h.1⟩, h.2⟩, (fun a ha => nomatch ha)⟩, (fun a ha => nomatch ha)⟩
  simp [selectAtoms, Expr.countStar, Expr.atoms, listAtoms, Atom.IsFinite]

theorem Sound.countQuery (h : s.Sound) (d : Dialect) (root : String) :
    s.Builds d Query.IsFinite (s.countQuery d root) := by
  unfold Schema.countQuery
  split_ifs
  · refine (h.baseQuery d root).bind fun q hq => ⟨_, rfl, ?_⟩
    exact isFinite_ofSource ⟨hq, fun a ha => nomatch ha⟩
  · exact (h.fromClause d root).bind fun source hsource => ⟨_, rfl, isFinite_ofSource hsource⟩

/-! ## Statements -/

/-- How compiling a query ends: with what the final check says of its text, unless there is a file
that the dialect cannot read. -/
inductive Compiles (s : Schema) (d : Dialect) (x : Except CompileError Query) :
    Except CompileError String → Prop
  | refused {format : FileFormat} {path : String} (hsource : s.source = .file format path)
      (hd : d.scansFiles = false) : Compiles s d x (.error (.unsupportedFormat s.name format.name d))
  | checked (hscans : ¬ s.Unscannable d) {q : Query} {sql : String} (hx : x = .ok q)
      (hsql : q.sql d = .ok sql) : Compiles s d x (checkGenerated sql d s.name)

/-- A query that was built with finite numbers is written, so only the check can still fail. -/
theorem Builds.finish {x : Except CompileError Query} (h : s.Builds d Query.IsFinite x) :
    s.Compiles d x (x >>= s.finish d) := by
  cases h with
  | refused hsource hd => exact .refused hsource hd
  | @built q hscans hq =>
    obtain ⟨sql, hsql⟩ := hq.exists_sql d
    have hfinish : Except.ok q >>= s.finish d = checkGenerated sql d s.name := by
      show s.finish d q = _
      rw [Schema.finish, hsql]
    rw [hfinish]
    exact .checked hscans rfl hsql

/-- The check fails only because a text is not one statement. -/
theorem checkGenerated_eq_error {sql name : String} {e : CompileError}
    (h : checkGenerated sql d name = .error e) : ∃ detail, e = .invalidQuery name sql detail := by
  unfold checkGenerated at h
  split at h
  · cases h
    exact ⟨_, rfl⟩
  · exact nomatch h
  · cases h
    exact ⟨_, rfl⟩

/-- The final check refuses the text of a query. -/
def FailsCheck (s : Schema) (d : Dialect) (x : Except CompileError Query) (e : CompileError) : Prop :=
  ∃ q sql detail, x = .ok q ∧ q.sql d = .ok sql ∧ checkGenerated sql d s.name = .error e ∧
    e = .invalidQuery s.name sql detail

variable {x : Except CompileError Query} {r : Except CompileError String}

/-- An error is that of a file which cannot be scanned, or the check refuses the text that was
written. -/
theorem Compiles.error_cases (h : s.Compiles d x r) {e : CompileError} (he : r = .error e) :
    (∃ format path, s.source = .file format path ∧ d.scansFiles = false ∧
        e = .unsupportedFormat s.name format.name d) ∨
      s.FailsCheck d x e := by
  cases h with
  | refused hsource hd =>
    cases he
    exact .inl ⟨_, _, hsource, hd, rfl⟩
  | @checked hscans q sql hx hsql =>
    obtain ⟨detail, hdetail⟩ := checkGenerated_eq_error he
    exact .inr ⟨q, sql, detail, hx, hsql, he, hdetail⟩

/-- The dialect is refused exactly if the source is a file that it cannot scan. -/
theorem Compiles.refused_iff (h : s.Compiles d x r) :
    (∃ name format d', r = .error (.unsupportedFormat name format d')) ↔ s.Unscannable d := by
  cases h with
  | refused hsource hd => exact iff_of_true ⟨_, _, _, rfl⟩ ⟨_, _, hsource, hd⟩
  | checked hscans hx hsql =>
    refine iff_of_false ?_ hscans
    rintro ⟨name, format, d', he⟩
    obtain ⟨detail, hdetail⟩ := checkGenerated_eq_error he
    exact nomatch hdetail

/-- The statements of a schema, each with the query that is written. -/
def statements (s : Schema) (o : CompileOptions) (rows : Option Nat) :
    List (Except CompileError Query × Except CompileError String) :=
  let d := o.dialectFor s
  [(s.fullQuery d o.datasetRoot, s.compile o),
    (s.headQuery d o.datasetRoot (rows.getD o.headRows), s.compileHead o rows),
    (s.countQuery d o.datasetRoot, s.compileCount o)]

/-- Each of the statements of a sound schema is compiled, refused for its file or refused by the
check. -/
theorem Sound.compiles (h : s.Sound) (o : CompileOptions) (rows : Option Nat) :
    ∀ p ∈ s.statements o rows, s.Compiles (o.dialectFor s) p.1 p.2 := by
  simp only [statements, List.forall_mem_cons]
  refine ⟨?_, ?_, ?_, fun p hp => nomatch hp⟩
  · exact (h.fullQuery _ _).finish
  · exact (h.headQuery _ _ _).finish
  · exact (h.countQuery _ _).finish

/-- A schema that was built compiles for every dialect and from every directory, with two
exceptions: a file that the dialect cannot read, which is always refused, and a text that the final
check refuses. -/
theorem compile_fails_only {b : SchemaDraft} {s : Schema} (h : b.build = .ok s)
    (hmade : ∀ t ∈ b.transformations, ∃ kind params, Transformation.ofKind kind params = .ok t)
    (o : CompileOptions) (rows : Option Nat) :
    ∀ p ∈ s.statements o rows,
      (∀ e, p.2 = .error e →
        (∃ format path, s.source = .file format path ∧ (o.dialectFor s).scansFiles = false ∧
            e = .unsupportedFormat s.name format.name (o.dialectFor s)) ∨
          s.FailsCheck (o.dialectFor s) p.1 e) ∧
      ((∃ name format d, p.2 = .error (.unsupportedFormat name format d)) ↔
        ∃ format path, s.source = .file format path ∧ (o.dialectFor s).scansFiles = false) := by
  intro p hp
  have hcompiles := (sound_of_build h hmade).compiles o rows p hp
  exact ⟨fun e he => hcompiles.error_cases he, hcompiles.refused_iff⟩

/-- A file of orders with a rule and a grouping. -/
def fileDraft : SchemaDraft :=
  make "Orders" (.file .csv "data/orders.csv")
    [.columns [{ name := "orders.total", type := .float }, { name := "Region", type := .string }],
      .transformations [.doubled], .groupBy ["region"]]

/-- A file is compiled for a dialect that scans files, and refused for one that does not. -/
theorem compile_fails_only_file :
    ∃ s, fileDraft.build = .ok s ∧
      (∀ p ∈ s.statements { dialect := some .postgres } none,
        ∃ name format d, p.2 = .error (.unsupportedFormat name format d)) ∧
      ∀ p ∈ s.statements { datasetRoot := "/srv" } none, ∀ e, p.2 = .error e →
        s.FailsCheck .duckdb p.1 e := by
  have hbuild : fileDraft.build.toOption.isSome = true := by decide +kernel
  obtain ⟨s, hs⟩ := Option.isSome_iff_exists.1 hbuild
  rw [toOption_eq_some] at hs
  have hsource : s.source = .file .csv "data/orders.csv" := (build_eq_ok_iff_becomes.1 hs).2.source
  have hmade : ∀ t ∈ fileDraft.transformations,
      ∃ kind params, Transformation.ofKind kind params = .ok t := by
    intro t ht
    rw [List.mem_singleton.1 ht]
    exact ⟨.scale, .object Transformation.doubled.params, rfl⟩
  refine ⟨s, hs, fun p hp => ?_, fun p hp e he => ?_⟩
  -- Postgres scans no files, DuckDB does
  · exact (compile_fails_only hs hmade _ none p hp).2.2 ⟨_, _, hsource, rfl⟩
  · have hd : (CompileOptions.dialectFor { datasetRoot := "/srv" } s) = .duckdb := by
      show s.source.dialect = .duckdb
      rw [hsource]
      rfl
    have hcases := (compile_fails_only hs hmade _ none p hp).1 e he
    rw [hd] at hcases
    exact hcases.resolve_left fun ⟨_, _, _, hscans, _⟩ => nomatch hscans

end Schema

end DatasetSql
