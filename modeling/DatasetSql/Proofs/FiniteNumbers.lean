import DatasetSql.Proofs.JoinChain

/-!
# Emitted numbers are finite

Writing a query stops at a floating-point value that is not a number, and at no other token. A
schema may be in any state that its fields allow: as long as its transformations were read from
parameters, whatever is compiled of it has no such value, at any depth and after any chain of rules.
-/

namespace DatasetSql

open Emit Numeric

namespace Emit

/-- Where every token has a spelling, the floating-point values are numbers. -/
theorem Writable.isFinite {ts : List Token} (h : Writable ts) {x : FloatValue}
    (hx : Token.litFloat x ∈ ts) : ∃ y, x = .finite y := by
  have hwritable : (Token.litFloat x).isWritable = true := List.all_eq_true.1 h _ hx
  cases x with
  | finite y => exact ⟨y, rfl⟩
  | infinite negative => exact nomatch hwritable
  | nan => exact nomatch hwritable

end Emit

namespace Schema

/-! ## Steps that write nothing -/

/-- How a step of compiling ends before anything is written: with a part of which `P` holds, or with
an error of another kind than that a number cannot be written. -/
inductive Prepares {α : Type} (P : α → Prop) : Except CompileError α → Prop
  | ready {a : α} (h : P a) : Prepares P (.ok a)
  | failed {e : CompileError} (h : ∀ e', e ≠ .unwritable e') : Prepares P (.error e)

section

variable {α β : Type} {P : α → Prop} {Q : β → Prop}

/-- Steps that prepare something are done one after the other. -/
theorem Prepares.bind {x : Except CompileError α} {f : α → Except CompileError β}
    (hx : Prepares P x) (hf : ∀ a, P a → Prepares Q (f a)) : Prepares Q (x >>= f) := by
  cases hx with
  | ready h => exact hf _ h
  | failed h => exact .failed h

theorem Prepares.of_eq_ok {x : Except CompileError α} {a : α} (hx : Prepares P x)
    (h : x = .ok a) : P a := by
  cases hx with
  | ready ha =>
    cases h
    exact ha
  | failed => exact nomatch h

/-- What is prepared of every member of a list is prepared of the list. -/
theorem Prepares.mapM {f : α → Except CompileError β} {xs : List α}
    (h : ∀ x ∈ xs, Prepares Q (f x)) : Prepares (fun ys => ∀ y ∈ ys, Q y) (xs.mapM f) := by
  induction xs with
  | nil =>
    rw [List.mapM_nil]
    exact .ready (List.forall_mem_nil _)
  | cons x xs ih =>
    obtain ⟨hx, hxs⟩ := List.forall_mem_cons.1 h
    rw [List.mapM_cons]
    refine hx.bind fun y hy => (ih hxs).bind fun ys hys => ?_
    exact .ready (List.forall_mem_cons.2 ⟨hy, hys⟩)

end

/-! ## Parts -/

variable {s : Schema}

theorem prepares_columnStart (d : Dialect) (isView : Bool) (c : Column) :
    Prepares (fun x => x.1.IsFinite) (columnStart d isView c) := by
  unfold columnStart
  split
  next expression _ =>
    refine Prepares.bind (P := Expr.IsFinite) ?_ fun e he => .ready he
    unfold columnExpression
    split
    · refine .ready ?_
      split_ifs <;> simp
    · exact .failed fun e' => CompileError.noConfusion
    · exact .failed fun e' => CompileError.noConfusion
  next table name _ _ =>
    split_ifs
    · exact .ready (Expr.isFinite_column _ _)
    · exact .ready (Expr.isFinite_col _)
  next => exact .ready (Expr.isFinite_col _)

/-- A chain of rules adds the numbers of its rules only. -/
theorem prepares_selectItem (hrules : ∀ t ∈ s.transformations, t.rule.IsFinite) (d : Dialect)
    (c : Column) : Prepares (fun item => item.1.IsFinite) (selectItem d s c) := by
  refine (prepares_columnStart d s.source.isView c).bind fun x hx => .ready ?_
  apply Rule.isFinite_foldl_apply
  · rw [List.forall_mem_map]
    intro t ht
    exact hrules t (List.mem_filter.1 ht).1
  · exact hx

/-- The rules put only finite numbers into the select list. -/
theorem prepares_selectList (hrules : ∀ t ∈ s.transformations, t.rule.IsFinite) (d : Dialect) :
    Prepares (fun items => ∀ a ∈ selectAtoms items, a.IsFinite) (selectList d s) := by
  refine (Prepares.mapM fun c _ => prepares_selectItem hrules d c).bind fun items hitems => .ready ?_
  split_ifs
  · exact List.forall_mem_nil _
  · exact forall_mem_selectAtoms.2 hitems

theorem prepares_groupItem (d : Dialect) (name : String) :
    Prepares Expr.IsFinite (groupItem d s name) := by
  unfold groupItem
  split_ifs
  · exact .failed fun e' => CompileError.noConfusion
  · exact .ready (isFinite_reference d s name)

/-- The path of a file is written as a string; tables and conditions of joins hold no literals. -/
theorem prepares_fromClause (d : Dialect) (root : String) :
    Prepares FiniteSource (s.fromClause d root) := by
  unfold fromClause
  split
  next format path _ =>
    split_ifs
    · exact .failed fun e' => CompileError.noConfusion
    · split
      · refine .ready ⟨?_, List.forall_mem_nil _⟩
        simp [TableExpr.atoms, listAtoms, Expr.str, Expr.atoms, Atom.IsFinite, Literal.token,
          Token.isWritable]
      · exact .failed fun e' => CompileError.noConfusion
  next => exact .ready ⟨List.forall_mem_nil _, List.forall_mem_nil _⟩
  next =>
    split
    next plan _ =>
      refine .ready ⟨List.forall_mem_nil _, ?_⟩
      rw [forall_mem_joinAtoms, List.forall_mem_map]
      intro step _
      exact List.forall_mem_nil _
    next => exact .failed fun e' => CompileError.noConfusion

/-! ## Queries -/

section

variable (hrules : ∀ t ∈ s.transformations, t.rule.IsFinite) (d : Dialect) (root : String)

include hrules

/-- The query without order and limit has finite numbers only. -/
theorem prepares_baseQuery : Prepares Query.IsFinite (s.baseQuery d root) := by
  refine (prepares_fromClause d root).bind fun source hsource => ?_
  refine (prepares_selectList hrules d).bind fun items hitems => ?_
  refine (Prepares.mapM fun name _ => prepares_groupItem d name).bind fun groups hgroups => .ready ?_
  simp only [Query.IsFinite, Query.atoms, List.forall_mem_append]
  exact ⟨⟨⟨⟨hitems, hsource.1⟩, hsource.2⟩, forall_mem_listAtoms.2 hgroups⟩, List.forall_mem_nil _⟩

theorem prepares_fullQuery : Prepares Query.IsFinite (s.fullQuery d root) := by
  refine (prepares_baseQuery hrules d root).bind fun q hq => .ready ?_
  have hkeys : ∀ a ∈ sortAtoms (s.orderBy.map fun o => (reference d s o.column, o.direction)),
      a.IsFinite := by
    rw [forall_mem_sortAtoms, List.forall_mem_map]
    intro o _
    exact isFinite_reference d s o.column
  have hsorted := isFinite_withOrder hq hkeys
  split
  · exact isFinite_withLimit hsorted _
  · exact hsorted

theorem prepares_headQuery (rows : Nat) : Prepares Query.IsFinite (s.headQuery d root rows) :=
  (prepares_baseQuery hrules d root).bind fun _ hq => .ready (isFinite_withLimit hq rows)

theorem prepares_countQuery : Prepares Query.IsFinite (s.countQuery d root) := by
  unfold countQuery
  split_ifs
  · refine (prepares_baseQuery hrules d root).bind fun q hq => .ready ?_
    exact isFinite_ofSource ⟨hq, List.forall_mem_nil _⟩
  · exact (prepares_fromClause d root).bind fun source hsource => .ready (isFinite_ofSource hsource)

end

/-! ## Statements -/

/-- A query whose numbers are finite is written, so after that only the check of its text can fail. -/
theorem Prepares.finish {x : Except CompileError Query} (h : Prepares Query.IsFinite x)
    (d : Dialect) : Prepares (fun _ => True) (x >>= s.finish d) := by
  refine h.bind fun q hq => ?_
  obtain ⟨sql, hsql⟩ := hq.exists_sql d
  rw [Schema.finish, hsql]
  show Prepares _ (checkGenerated sql d s.name)
  cases hcheck : checkGenerated sql d s.name with
  | ok text => exact .ready trivial
  | error e =>
    obtain ⟨detail, rfl⟩ := checkGenerated_eq_error hcheck
    exact .failed fun e' => CompileError.noConfusion

/-- Each statement of a schema is that of a query with finite numbers only. -/
theorem prepares_statements (hrules : ∀ t ∈ s.transformations, t.rule.IsFinite)
    (o : CompileOptions) (rows : Option Nat) :
    ∀ p ∈ s.statements o rows,
      Prepares Query.IsFinite p.1 ∧ p.2 = p.1 >>= s.finish (o.dialectFor s) := by
  simp only [statements, List.forall_mem_cons]
  refine ⟨⟨?_, rfl⟩, ⟨?_, rfl⟩, ⟨?_, rfl⟩, List.forall_mem_nil _⟩
  · exact prepares_fullQuery hrules _ _
  · exact prepares_headQuery hrules _ _ _
  · exact prepares_countQuery hrules _ _

/-- Compiling a schema whose transformations were read from parameters never comes to a number that
cannot be written. Of all three statements, for every dialect and from every directory: the
floating-point values among the tokens of the query are finite, in whatever dialect they are written,
and the outcome is not that a number cannot be written. -/
theorem emitted_numbers_finite
    (hmade : ∀ t ∈ s.transformations, ∃ name params, Transformation.read name params = .ok t)
    (o : CompileOptions) (rows : Option Nat) :
    ∀ p ∈ s.statements o rows,
      (∀ q, p.1 = .ok q → ∀ d : Dialect,
        (∀ x, Token.litFloat x ∈ q.tokens d → ∃ y, x = .finite y) ∧ ∃ sql, q.sql d = .ok sql) ∧
      ∀ e, p.2 ≠ .error (.unwritable e) := by
  have hrules : ∀ t ∈ s.transformations, t.rule.IsFinite := by
    intro t ht
    obtain ⟨name, params, hread⟩ := hmade t ht
    obtain ⟨kind, -, hkind⟩ := bind_eq_ok.1 hread
    exact Transformation.isFinite_rule hkind
  intro p hp
  obtain ⟨hquery, hstatement⟩ := prepares_statements hrules o rows p hp
  refine ⟨fun q hq d => ?_, fun e he => ?_⟩
  · have hfinite : q.IsFinite := hquery.of_eq_ok hq
    exact ⟨fun x hx => (q.writable_tokens d hfinite).isFinite hx, hfinite.exists_sql d⟩
  -- a finite query is always written, so the error would be that of making one
  · have hfinish := hquery.finish (s := s) (o.dialectFor s)
    rw [← hstatement, he] at hfinish
    cases hfinish with
    | failed h => exact h e rfl

/-- Levels between one half and the largest unsigned word, which no signed literal holds, and then in
two buckets. -/
def levelRules : List (String × Json.Value) :=
  let half : Json.Value := .number (.float ⟨false, 4503599627370496, -53⟩)
  [("clip", .object [("column", .string "level"), ("lower", half),
      ("upper", .number (.int 18446744073709551615))]),
    ("bin", .object [("column", .string "LEVEL"), ("bins", .array [.number (.int 0), half,
      .number (.int 9)]), ("labels", .array [.string "low", half])])]

/-- The schema of levels, with its rules read from parameters. -/
def levels : Except SchemaError Schema := do
  let rules ← levelRules.mapM fun r => Transformation.read r.1 r.2
  SchemaDraft.build (SchemaDraft.make "Levels" (.file .parquet "levels.parquet")
    [.columns [{ name := "level", type := .float }], .transformations rules])

/-- The bounds of the clipping stand in both buckets, on either side of each. -/
theorem emitted_numbers_finite_levels :
    ∃ s q, levels = .ok s ∧ s.fullQuery .duckdb "." = .ok q ∧
      (∀ t ∈ s.transformations, ∃ name params, Transformation.read name params = .ok t) ∧
      ((q.tokens .duckdb).countP fun t => t matches .litFloat _) = 11 ∧
      (∀ x, Token.litFloat x ∈ q.tokens .duckdb → ∃ y, x = .finite y) ∧
      ∀ e, s.compile {} ≠ .error (.unwritable e) := by
  have hrun : (levels.toOption.bind fun s => (s.fullQuery .duckdb ".").toOption.map fun q =>
      (q.tokens .duckdb).countP fun t => t matches .litFloat _) = some 11 := by decide +kernel
  obtain ⟨s, hs, hrun⟩ := Option.bind_eq_some_iff.1 hrun
  obtain ⟨q, hq, hcount⟩ := Option.map_eq_some_iff.1 hrun
  rw [toOption_eq_some] at hs hq
  obtain ⟨rules, hrules, hbuild⟩ := bind_eq_ok.1 hs
  have hbecomes := (SchemaDraft.build_eq_ok_iff_becomes.1 hbuild).2
  -- the rules were read one by one before the schema was built
  have hmade : ∀ t ∈ s.transformations, ∃ name params, Transformation.read name params = .ok t := by
    rw [hbecomes.transformations]
    intro t ht
    obtain ⟨r, -, hr⟩ := (mem_of_mapM_eq_ok hrules).1 ht
    exact ⟨r.1, r.2, hr⟩
  have hdialect : CompileOptions.dialectFor {} s = .duckdb := by
    show s.source.dialect = .duckdb
    rw [hbecomes.source]
    rfl
  have hfull : s.fullQuery (CompileOptions.dialectFor {} s) "." = .ok q := by rw [hdialect, hq]
  have hstatement := emitted_numbers_finite hmade {} none _ List.mem_cons_self
  exact ⟨s, q, hs, hq, hmade, hcount, (hstatement.1 q hfull .duckdb).1, hstatement.2⟩

end Schema

end DatasetSql
