import DatasetSql.Statement.Basic

/-!
# Shapes of statements

Two questions about the shape of a tree: whether an expression can be an operand as it stands, and
whether a statement reads exactly one relation.
-/

namespace DatasetSql.Statement

/-- Whether an expression binds tighter than any operator around it. -/
def Expr.isAtomic : Expr → Bool
  | .ident _ | .compound _ | .value _ | .call .. => true
  | .form tight _ => tight
  | _ => false

end DatasetSql.Statement

namespace DatasetSql

open Statement in
/-- The only relation that a query reads, if its body is a `SELECT` from one relation. -/
def Statement.singleRelation? : Statement → Option Relation
  | .query (.mk _ _ (.select (.mk _ _ _ [.mk relation []] _)) _ _ _ _ _ _ _ _) => some relation
  | _ => none

end DatasetSql
