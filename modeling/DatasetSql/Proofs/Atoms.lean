import DatasetSql.Emit.Query

/-!
# What expressions are made of

The parts of an emitted tree that are written neither as identifiers nor as fixed words: its
literals, the names of its functions, the types it casts to and the texts it takes over. They are
listed in the order in which they are written, at any depth.
-/

namespace DatasetSql.Emit

/-- A part of an emitted tree that its shape does not fix. -/
inductive Atom where
  | literal (value : Literal)
  | function (name : String)
  | type (text : String)
  /-- The name of a table function, which is written as it stands. -/
  | scan (name : String)
  | raw (sql : String)

mutual

/-- The atoms of an expression. -/
def Expr.atoms : Expr → List Atom
  | .column _ _ | .star _ => []
  | .literal value => [.literal value]
  | .binary left _ right => left.atoms ++ right.atoms
  | .function name args => .function name :: listAtoms args
  | .cast operand type => operand.atoms ++ [.type type]
  | .case branches otherwise => branchAtoms branches ++ otherwiseAtoms otherwise
  | .inSubquery operand query _ => operand.atoms ++ query.atoms
  | .between operand low high _ => operand.atoms ++ low.atoms ++ high.atoms
  | .paren inner => inner.atoms
  | .overAll function => function.atoms
  | .raw sql => [.raw sql]

/-- The atoms of expressions. -/
def listAtoms : List Expr → List Atom
  | [] => []
  | e :: es => e.atoms ++ listAtoms es

/-- The atoms of the branches of a `CASE`. -/
def branchAtoms : List (Expr × Expr) → List Atom
  | [] => []
  | (test, value) :: bs => test.atoms ++ value.atoms ++ branchAtoms bs

/-- The atoms of the last branch of a `CASE`. -/
def otherwiseAtoms : Option Expr → List Atom
  | none => []
  | some e => e.atoms

/-- The atoms of a select list. -/
def selectAtoms : List (Expr × Option String) → List Atom
  | [] => []
  | (e, _) :: items => e.atoms ++ selectAtoms items

/-- The atoms of joins. -/
def joinAtoms : List (TableRef × Expr) → List Atom
  | [] => []
  | (_, condition) :: js => condition.atoms ++ joinAtoms js

/-- The atoms of sort keys. -/
def sortAtoms : List (Expr × Option SortDirection) → List Atom
  | [] => []
  | (e, _) :: keys => e.atoms ++ sortAtoms keys

/-- The atoms of what a query reads from. -/
def sourceAtoms : Option TableExpr → List Atom
  | none => []
  | some t => t.atoms

/-- The atoms of a query. -/
def Query.atoms : Query → List Atom
  | .mk select _ source joins groupBy orderBy _ =>
    selectAtoms select ++ sourceAtoms source ++ joinAtoms joins ++ listAtoms groupBy ++
      sortAtoms orderBy

/-- The atoms of a table expression. -/
def TableExpr.atoms : TableExpr → List Atom
  | .table _ => []
  | .call name args _ => .scan name :: listAtoms args
  | .subquery query _ => query.atoms

end

/-! ## Lists -/

section

variable {P : Atom → Prop}

/-- What holds of the atoms of a list of expressions holds of the atoms of each. -/
theorem forall_mem_listAtoms {es : List Expr} :
    (∀ a ∈ listAtoms es, P a) ↔ ∀ e ∈ es, ∀ a ∈ e.atoms, P a := by
  induction es with
  | nil => simp [listAtoms]
  | cons e es ih => rw [listAtoms, List.forall_mem_append, List.forall_mem_cons, ih]

/-- What holds of the atoms of the branches holds of those of every test and every value. -/
theorem forall_mem_branchAtoms {bs : List (Expr × Expr)} : (∀ a ∈ branchAtoms bs, P a) ↔
    ∀ b ∈ bs, (∀ a ∈ b.1.atoms, P a) ∧ ∀ a ∈ b.2.atoms, P a := by
  induction bs with
  | nil => simp [branchAtoms]
  | cons b bs ih =>
    rw [branchAtoms, List.forall_mem_append, List.forall_mem_append, List.forall_mem_cons, ih]

theorem forall_mem_selectAtoms {items : List (Expr × Option String)} :
    (∀ a ∈ selectAtoms items, P a) ↔ ∀ item ∈ items, ∀ a ∈ item.1.atoms, P a := by
  induction items with
  | nil => simp [selectAtoms]
  | cons item items ih => rw [selectAtoms, List.forall_mem_append, List.forall_mem_cons, ih]

theorem forall_mem_joinAtoms {js : List (TableRef × Expr)} :
    (∀ a ∈ joinAtoms js, P a) ↔ ∀ j ∈ js, ∀ a ∈ j.2.atoms, P a := by
  induction js with
  | nil => simp [joinAtoms]
  | cons j js ih => rw [joinAtoms, List.forall_mem_append, List.forall_mem_cons, ih]

theorem forall_mem_sortAtoms {keys : List (Expr × Option SortDirection)} :
    (∀ a ∈ sortAtoms keys, P a) ↔ ∀ k ∈ keys, ∀ a ∈ k.1.atoms, P a := by
  induction keys with
  | nil => simp [sortAtoms]
  | cons k keys ih => rw [sortAtoms, List.forall_mem_append, List.forall_mem_cons, ih]

end

end DatasetSql.Emit
