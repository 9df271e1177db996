import DatasetSql.Statement.Basic

/-!
# Collecting from statements

What a statement contains, in the order of reading: a node before its children, common table
expressions before the body, the select list before the sources, each relation before the condition
of its join. Of a phrase the late parts come last.
-/

namespace DatasetSql.Statement

/-- What is collected at each kind of node. -/
structure Collector (α : Type) where
  relation : Relation → List α := fun _ => []
  query : Query → List α := fun _ => []

variable {α : Type}

mutual

/-- Collects from a part that is not late. -/
def Part.collect (c : Collector α) : Part → List α
  | .words _ | .literal _ | .late _ => []
  | .expr e => e.collect c
  | .query q => q.collect c
  | .source s => s.collect c

/-- Collects from the parts of a phrase that are not late. -/
def collectEarly (c : Collector α) : List Part → List α
  | [] => []
  | p :: ps => p.collect c ++ collectEarly c ps

/-- Collects from the late parts of a phrase; they are phrases themselves. -/
def collectLate (c : Collector α) : List Part → List α
  | [] => []
  | .late parts :: ps => collectEarly c parts ++ collectLate c parts ++ collectLate c ps
  | .words _ :: ps | .literal _ :: ps | .expr _ :: ps | .query _ :: ps | .source _ :: ps =>
    collectLate c ps

/-- Collects from an expression. -/
def Expr.collect (c : Collector α) : Expr → List α
  | .ident _ | .compound _ | .value _ => []
  | .call _ tail => collectEarly c tail ++ collectLate c tail
  | .binary l _ r => l.collect c ++ r.collect c
  | .subquery q => q.collect c
  | .form _ parts => collectEarly c parts ++ collectLate c parts

/-- Collects from an expression that may be left out. -/
def collectExpr? (c : Collector α) : Option Expr → List α
  | none => []
  | some e => e.collect c

/-- Collects from a query. -/
def Query.collect (c : Collector α) : Query → List α
  | q@(.mk _ ctes body order limit offset _ detail _ fetched _) =>
    c.query q ++ collectCtes c ctes ++ body.collect c ++ collectEarly c order ++
      collectLate c order ++ collectExpr? c limit ++ collectEarly c detail ++
      collectLate c detail ++ collectExpr? c offset ++ collectExpr? c fetched

/-- Collects from common table expressions. -/
def collectCtes (c : Collector α) : List Cte → List α
  | [] => []
  | .mk _ _ q _ :: ctes => q.collect c ++ collectCtes c ctes

/-- Collects from the body of a query. -/
def Body.collect (c : Collector α) : Body → List α
  | .select s => s.collect c
  | .query q => q.collect c
  | .setOperation l _ r => l.collect c ++ r.collect c
  | .phrase parts => collectEarly c parts ++ collectLate c parts

/-- Collects from a `SELECT`. -/
def Select.collect (c : Collector α) : Select → List α
  | .mk opening items _ sources clauses =>
    collectEarly c opening ++ collectLate c opening ++ collectItems c items ++
      collectSources c sources ++ collectEarly c clauses ++ collectLate c clauses

/-- Collects from the items of a select list. -/
def collectItems (c : Collector α) : List (Expr × Option Ident) → List α
  | [] => []
  | (e, _) :: items => e.collect c ++ collectItems c items

/-- Collects from the sources of a `FROM` clause. -/
def collectSources (c : Collector α) : List Source → List α
  | [] => []
  | s :: ss => s.collect c ++ collectSources c ss

/-- Collects from a source. -/
def Source.collect (c : Collector α) : Source → List α
  | .mk relation joins => relation.collect c ++ collectJoins c joins

/-- Collects from a relation. -/
def Relation.collect (c : Collector α) : Relation → List α
  | r@(.table _ _ detail _ tail) =>
    c.relation r ++ collectEarly c detail ++ collectLate c detail ++ collectEarly c tail ++
      collectLate c tail
  | r@(.derived _ q _) => c.relation r ++ q.collect c
  | r@(.nested source _) => c.relation r ++ source.collect c
  | r@(.form parts _ _) => c.relation r ++ collectEarly c parts ++ collectLate c parts

/-- Collects from joins. -/
def collectJoins (c : Collector α) : List Join → List α
  | [] => []
  | .mk _ relation condition :: js =>
    relation.collect c ++ collectEarly c condition ++ collectLate c condition ++ collectJoins c js

end

end DatasetSql.Statement

namespace DatasetSql

open Statement in
/-- Collects from a statement. -/
def Statement.collect {α : Type} (c : Collector α) : Statement → List α
  | .query q => q.collect c
  | .command parts => collectEarly c parts ++ collectLate c parts

end DatasetSql
