import DatasetSql.Statement.Basic

/-!
# Passes over statements

A pass changes a statement from the inside out: at every place where an identifier refers to a
column or names a relation, at every expression, relation and query. What a pass puts in place of a
node is not passed over again. A pass may keep an account of what it does, so it runs in a monad;
most passes keep none.
-/

namespace DatasetSql.Statement

/-- What a pass does at each kind of node, once it has been through the node's children. -/
structure Pass (m : Type → Type) [Monad m] where
  ident : Ident → Ident := id
  expr : Expr → m Expr := pure
  relation : Relation → m Relation := pure
  query : Query → m Query := pure

variable {m : Type → Type} [Monad m]

/-- Passes over the name of an alias; its columns are left alone. -/
def TableAlias.pass (p : Pass m) (a : TableAlias) : TableAlias := { a with name := p.ident a.name }

mutual

/-- Passes over a part of a phrase. -/
def Part.passM (p : Pass m) : Part → m Part
  | .words s => return .words s
  | .literal v => return .literal v
  | .expr e => return .expr (← e.passM p)
  | .query q => return .query (← q.passM p)
  | .source s => return .source (← s.passM p)
  | .late parts => return .late (← passPhrase p parts)

/-- Passes over a phrase. -/
def passPhrase (p : Pass m) : List Part → m (List Part)
  | [] => return []
  | part :: parts => return (← part.passM p) :: (← passPhrase p parts)

/-- Passes over an expression; the name of a function is left alone. -/
def Expr.passM (p : Pass m) : Expr → m Expr
  | .ident name => p.expr (.ident (p.ident name))
  | .compound parts => p.expr (.compound (parts.map p.ident))
  | .value v => p.expr (.value v)
  | .call name tail => do p.expr (.call name (← passPhrase p tail))
  | .binary l operator r => do p.expr (.binary (← l.passM p) operator (← r.passM p))
  | .subquery q => do p.expr (.subquery (← q.passM p))
  | .form tight parts => do p.expr (.form tight (← passPhrase p parts))

/-- Passes over an expression that may be left out. -/
def passExpr? (p : Pass m) : Option Expr → m (Option Expr)
  | none => return none
  | some e => return some (← e.passM p)

/-- Passes over a query. -/
def Query.passM (p : Pass m) : Query → m Query
  | .mk recursive ctes body order limit offset unit detail fetch fetched closing => do
    p.query (.mk recursive (← passCtes p ctes) (← body.passM p) (← passPhrase p order)
      (← passExpr? p limit) (← passExpr? p offset) unit (← passPhrase p detail) fetch
      (← passExpr? p fetched) closing)

/-- Passes over common table expressions. -/
def passCtes (p : Pass m) : List Cte → m (List Cte)
  | [] => return []
  | .mk asName materialized q origin :: ctes =>
    return .mk (asName.pass p) materialized (← q.passM p) origin :: (← passCtes p ctes)

/-- Passes over the body of a query. -/
def Body.passM (p : Pass m) : Body → m Body
  | .select s => return .select (← s.passM p)
  | .query q => return .query (← q.passM p)
  | .setOperation l operator r => return .setOperation (← l.passM p) operator (← r.passM p)
  | .phrase parts => return .phrase (← passPhrase p parts)

/-- Passes over a `SELECT`. -/
def Select.passM (p : Pass m) : Select → m Select
  | .mk opening items target sources clauses =>
    return .mk (← passPhrase p opening) (← passItems p items) target (← passSources p sources)
      (← passPhrase p clauses)

/-- Passes over the items of a select list and their aliases. -/
def passItems (p : Pass m) : List (Expr × Option Ident) → m (List (Expr × Option Ident))
  | [] => return []
  | (e, asName) :: items => return (← e.passM p, asName.map p.ident) :: (← passItems p items)

/-- Passes over the sources of a `FROM` clause. -/
def passSources (p : Pass m) : List Source → m (List Source)
  | [] => return []
  | s :: ss => return (← s.passM p) :: (← passSources p ss)

/-- Passes over a source. -/
def Source.passM (p : Pass m) : Source → m Source
  | .mk relation joins => return .mk (← relation.passM p) (← passJoins p joins)

/-- Passes over a relation. The name of a table is passed over, the name of a function is not. -/
def Relation.passM (p : Pass m) : Relation → m Relation
  | .table name isCall detail asName tail => do
    p.relation (.table (if isCall then name else name.map p.ident) isCall (← passPhrase p detail)
      (asName.map (·.pass p)) (← passPhrase p tail))
  | .derived lateral q asName => do
    p.relation (.derived lateral (← q.passM p) (asName.map (·.pass p)))
  | .nested source asName => do p.relation (.nested (← source.passM p) asName)
  | .form parts asName tail => do p.relation (.form (← passPhrase p parts) asName tail)

/-- Passes over joins. -/
def passJoins (p : Pass m) : List Join → m (List Join)
  | [] => return []
  | .mk words relation condition :: js =>
    return .mk words (← relation.passM p) (← passPhrase p condition) :: (← passJoins p js)

end

end DatasetSql.Statement

namespace DatasetSql

open Statement

/-- Passes over a statement. -/
def Statement.passM {m : Type → Type} [Monad m] (p : Pass m) : Statement → m Statement
  | .query q => return .query (← q.passM p)
  | .command parts => return .command (← passPhrase p parts)

/-- Passes over a statement without keeping an account. -/
def Statement.pass (p : Pass Id) (s : Statement) : Statement := (s.passM p).run

end DatasetSql
