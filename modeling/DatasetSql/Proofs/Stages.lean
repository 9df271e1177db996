import DatasetSql.Proofs.SelectList

/-!
# Transformations in stages

A list of transformations acts on a column that has an expression and maybe an alias. One
transformation is a step: if it targets the column, it changes the expression and settles the alias,
and otherwise it changes nothing. A list takes its steps from left to right, although it decides on
the alias only at its end. So it can be cut anywhere into stages, and what targets other columns can
be left out or put in between.
-/

namespace DatasetSql

open Emit

variable {d : Dialect} {column : String}

/-- What a transformation makes of a column. A new name replaces the alias; any other transformation
keeps the alias, or gives the folded name to a column that has none. -/
def TransformedColumn.step (d : Dialect) (column : String) (c : TransformedColumn)
    (t : Transformation) : TransformedColumn :=
  if t.targets column then
    { expr := t.rule.apply d c.expr
      asName := t.rule.newName?.or (c.asName.or (some (d.foldIdentifier column))) }
  else c

/-! ## Steps -/

/-- The last new name of some rules, which the first of them gives if no other does. -/
theorem Rule.getLast?_newName?_cons (r : Rule) (rs : List Rule) :
    ((r :: rs).filterMap newName?).getLast? = (rs.filterMap newName?).getLast?.or r.newName? := by
  cases hr : r.newName? with
  | none => rw [List.filterMap_cons_none hr, Option.or_none]
  | some name =>
    rw [List.filterMap_cons_some hr, List.getLast?_cons]
    cases (rs.filterMap newName?).getLast? <;> rfl

/-- Without transformations a column stays as it starts. -/
theorem applyTransformations_nil (asName : Option String) (e : Expr) :
    applyTransformations d [] column asName e = ⟨e, asName⟩ := by
  have hname : ((none : Option String).or asName).or none = asName := by
    rw [Option.none_or, Option.or_none]
  exact congrArg (TransformedColumn.mk e) hname

/-- The alias after the first of some rules leaves the others nothing to give but a new name. -/
theorem TransformedColumn.asName_or (renamed first asName : Option String) (own : String)
    (others : Bool) :
    (renamed.or (first.or (asName.or (some own)))).or (if others then none else some own) =
      ((renamed.or first).or asName).or (some own) := by
  cases renamed <;> cases first <;> cases asName <;> rfl

/-- The first transformation takes its step, and the others act on what it gives. -/
theorem applyTransformations_cons (t : Transformation) (ts : List Transformation)
    (c : TransformedColumn) :
    applyTransformations d (t :: ts) column c.asName c.expr =
      applyTransformations d ts column (c.step d column t).asName (c.step d column t).expr := by
  -- the first rule is applied at once or is not for this column
  by_cases ht : t.targets column = true
  · have hrules : ((t :: ts).filter (·.targets column)).map (·.rule) =
        t.rule :: (ts.filter (·.targets column)).map (·.rule) := by
      rw [List.filter_cons_of_pos (p := fun t : Transformation => t.targets column) ht,
        List.map_cons]
    rw [TransformedColumn.step, if_pos ht, applyTransformations, applyTransformations, hrules,
      Rule.getLast?_newName?_cons]
    dsimp only
    rw [TransformedColumn.asName_or]
    rfl
  · have hrules : (t :: ts).filter (·.targets column) = ts.filter (·.targets column) :=
      List.filter_cons_of_neg (p := fun t : Transformation => t.targets column) ht
    rw [TransformedColumn.step, if_neg ht, applyTransformations, applyTransformations, hrules]

/-- A list of transformations takes its steps from left to right. -/
theorem applyTransformations_eq_foldl (ts : List Transformation) (c : TransformedColumn) :
    applyTransformations d ts column c.asName c.expr =
      ts.foldl (TransformedColumn.step d column) c := by
  induction ts generalizing c with
  | nil => exact applyTransformations_nil c.asName c.expr
  | cons t ts ih => rw [applyTransformations_cons, ih, List.foldl_cons]

/-! ## Stages -/

/-- What one list leaves, another one takes further. -/
theorem applyTransformations_append (xs ys : List Transformation) (asName : Option String)
    (e : Expr) :
    applyTransformations d (xs ++ ys) column asName e =
      applyTransformations d ys column (applyTransformations d xs column asName e).asName
        (applyTransformations d xs column asName e).expr := by
  have hrun (ts : List Transformation) : applyTransformations d ts column asName e =
      ts.foldl (TransformedColumn.step d column) ⟨e, asName⟩ :=
    applyTransformations_eq_foldl ts ⟨e, asName⟩
  rw [hrun (xs ++ ys), hrun xs, List.foldl_append, applyTransformations_eq_foldl]

/-- Only the rules of what targets the column are seen. -/
theorem applyTransformations_congr {xs ys : List Transformation}
    (h : (xs.filter (·.targets column)).map (·.rule) = (ys.filter (·.targets column)).map (·.rule))
    (asName : Option String) (e : Expr) :
    applyTransformations d xs column asName e = applyTransformations d ys column asName e := by
  rw [applyTransformations, applyTransformations, h]

/-- For every dialect and column, lists of transformations act on expression and alias: the empty list
leaves both, and two lists one after the other give what they give as one. Lists in which the same
rules target the column give the same, whatever targets other columns in them; and what targets the
column has its name up to the case of ASCII letters. -/
theorem applyTransformations_action (d : Dialect) (column : String) :
    (∀ asName e, applyTransformations d [] column asName e = ⟨e, asName⟩) ∧
    (∀ xs ys asName e, applyTransformations d (xs ++ ys) column asName e =
      applyTransformations d ys column (applyTransformations d xs column asName e).asName
        (applyTransformations d xs column asName e).expr) ∧
    (∀ xs ys : List Transformation,
      (xs.filter (·.targets column)).map (·.rule) = (ys.filter (·.targets column)).map (·.rule) →
      ∀ asName e,
        applyTransformations d xs column asName e = applyTransformations d ys column asName e) ∧
    ∀ t : Transformation, t.targets column = true ↔
      ∃ name, t.column = some name ∧ name.toList.map Char.toLower = column.toList.map Char.toLower := by
  refine ⟨applyTransformations_nil, applyTransformations_append,
    fun _ _ => applyTransformations_congr, fun t => ?_⟩
  rw [Transformation.targets_eq_true]
  exact exists_congr fun name => and_congr_right fun _ => Text.eqIgnoreCase_eq_true

/-- A renaming of another column and of this one, then a rule; and the same without the former. -/
def interleaved : List Transformation :=
  [⟨some "TOTAL", .strip, []⟩, ⟨some "city", .rename "Town", []⟩, ⟨some "total", .rename "Sum", []⟩,
    ⟨none, .removeDuplicates [], []⟩, ⟨some "Total", .toLowercase, []⟩]

def ofTotal : List Transformation :=
  [⟨some "total", .strip, []⟩, ⟨some "total", .rename "Sum", []⟩, ⟨some "total", .toLowercase, []⟩]

/-- Transformations of other columns between those of one change nothing of it. -/
theorem applyTransformations_action_interleaved :
    (interleaved.filter (·.targets "total")).map (·.rule) =
      (ofTotal.filter (·.targets "total")).map (·.rule) ∧
    ∀ asName e, applyTransformations .snowflake interleaved "total" asName e =
      applyTransformations .snowflake ofTotal "total" asName e := by
  have hrules : (interleaved.filter (·.targets "total")).map (·.rule) =
      (ofTotal.filter (·.targets "total")).map (·.rule) := by
    decide +kernel
  exact ⟨hrules, (applyTransformations_action .snowflake "total").2.2.1 _ _ hrules⟩

end DatasetSql
