import DatasetSql.Statement.Pass
import Mathlib.Logic.Basic

/-!
# Passes one after the other

A pass that only changes names, followed by any other pass, is a single pass: the second one with
its names changed first (`Statement.pass_naming`).
-/

namespace DatasetSql.Statement

/-- The expression with its name changed, if it is no more than a name. -/
def Expr.mapName (g : Ident → Ident) : Expr → Expr
  | .ident i => .ident (g i)
  | e => e

/-- The pass that changes identifiers by `f` and then, where an identifier is an expression by
itself, by `g`. -/
def naming (f g : Ident → Ident) : Pass Id := { ident := f, expr := Expr.mapName g }

/-- A pass that gives every name to itself changes no expression. -/
theorem Expr.mapName_id (e : Expr) : e.mapName id = e := by
  cases e with
  | ident i => rfl
  | compound is => rfl
  | value v => rfl
  | call name tail => rfl
  | binary l operator r => rfl
  | subquery q => rfl
  | form tight ps => rfl

/-- Renaming alone is a pass over the identifiers. -/
theorem naming_id (f : Ident → Ident) : naming f id = { ident := f } := by
  have h : Expr.mapName id = (pure : Expr → Id Expr) := funext Expr.mapName_id
  rw [naming, h]

/-- A pass with the names changed before. -/
def Pass.afterNaming (p : Pass Id) (f g : Ident → Ident) : Pass Id :=
  { p with ident := fun i => p.ident (f i), expr := fun e => p.expr (e.mapName g) }

section

variable {p : Pass Id} {f g : Ident → Ident}

/-- A renamed alias is passed as by one pass. -/
theorem TableAlias.pass_naming (a : Option TableAlias) :
    (a.map (·.pass (naming f g))).map (·.pass p) = a.map (·.pass (p.afterNaming f g)) := by
  cases a with
  | none => rfl
  | some a => rfl

theorem optionMap_naming (i : Option Ident) :
    (i.map (naming f g).ident).map p.ident = i.map (p.afterNaming f g).ident := by
  cases i with
  | none => rfl
  | some i => rfl

theorem map_naming (is : List Ident) :
    (is.map (naming f g).ident).map p.ident = is.map (p.afterNaming f g).ident :=
  List.map_map

-- A node is changed by the second pass when its children have been through both, so each case
-- rewrites the children and is left with what the second pass does at the node.
mutual

/-- A pass after a renaming is one pass, if it does the same to a name before and after it was
renamed. -/
theorem Part.pass_naming (h : ∀ i, p.ident (g (f i)) = g (p.ident (f i))) :
    ∀ x : Part, Part.passM p (x.passM (naming f g)) = x.passM (p.afterNaming f g)
  | .words _ => rfl
  | .literal _ => rfl
  | .expr e => congrArg Part.expr (Expr.pass_naming h e)
  | .query q => congrArg Part.query (Query.pass_naming h q)
  | .source s => congrArg Part.source (Source.pass_naming h s)
  | .late ps => congrArg Part.late (passPhrase_naming h ps)

theorem passPhrase_naming (h : ∀ i, p.ident (g (f i)) = g (p.ident (f i))) :
    ∀ ps : List Part, passPhrase p (passPhrase (naming f g) ps) = passPhrase (p.afterNaming f g) ps
  | [] => rfl
  | x :: ps => congrArg₂ List.cons (Part.pass_naming h x) (passPhrase_naming h ps)

/-- For an expression the names are renamed in front, where the pass finds them. -/
theorem Expr.pass_naming (h : ∀ i, p.ident (g (f i)) = g (p.ident (f i))) :
    ∀ e : Expr, Expr.passM p (e.passM (naming f g)) = e.passM (p.afterNaming f g)
  | .ident i => congrArg (fun j => p.expr (.ident j)) (h i)
  | .compound is => congrArg (fun js => p.expr (.compound js)) (map_naming is)
  | .value _ => rfl
  | .call name tail => congrArg (fun ps => p.expr (.call name ps)) (passPhrase_naming h tail)
  | .binary l operator r =>
    congrArg₂ (fun l r => p.expr (.binary l operator r)) (Expr.pass_naming h l)
      (Expr.pass_naming h r)
  | .subquery q => congrArg (fun q => p.expr (.subquery q)) (Query.pass_naming h q)
  | .form tight ps => congrArg (fun ps => p.expr (.form tight ps)) (passPhrase_naming h ps)

theorem passExpr?_naming (h : ∀ i, p.ident (g (f i)) = g (p.ident (f i))) :
    ∀ e : Option Expr, passExpr? p (passExpr? (naming f g) e) = passExpr? (p.afterNaming f g) e
  | none => rfl
  | some e => congrArg some (Expr.pass_naming h e)

/-- A pass after a renaming of a query is one pass over the query. -/
theorem Query.pass_naming (h : ∀ i, p.ident (g (f i)) = g (p.ident (f i))) :
    ∀ q : Query, Query.passM p (q.passM (naming f g)) = q.passM (p.afterNaming f g)
  | .mk recursive ctes body order limit offset unit detail fetch fetched closing => by
    show p.query (.mk recursive (passCtes p (passCtes (naming f g) ctes))
      (Body.passM p (body.passM (naming f g))) (passPhrase p (passPhrase (naming f g) order))
      (passExpr? p (passExpr? (naming f g) limit)) (passExpr? p (passExpr? (naming f g) offset))
      unit (passPhrase p (passPhrase (naming f g) detail)) fetch
      (passExpr? p (passExpr? (naming f g) fetched)) closing) = _
    rw [passCtes_naming h ctes, Body.pass_naming h body, passPhrase_naming h order,
      passExpr?_naming h limit, passExpr?_naming h offset, passPhrase_naming h detail,
      passExpr?_naming h fetched]
    rfl

theorem passCtes_naming (h : ∀ i, p.ident (g (f i)) = g (p.ident (f i))) :
    ∀ ctes : List Cte, passCtes p (passCtes (naming f g) ctes) = passCtes (p.afterNaming f g) ctes
  | [] => rfl
  | .mk a materialized q origin :: ctes =>
    congrArg₂ (fun q cs => Cte.mk (a.pass (p.afterNaming f g)) materialized q origin :: cs)
      (Query.pass_naming h q) (passCtes_naming h ctes)

theorem Body.pass_naming (h : ∀ i, p.ident (g (f i)) = g (p.ident (f i))) :
    ∀ b : Body, Body.passM p (b.passM (naming f g)) = b.passM (p.afterNaming f g)
  | .select s => congrArg Body.select (Select.pass_naming h s)
  | .query q => congrArg Body.query (Query.pass_naming h q)
  | .setOperation l operator r =>
    congrArg₂ (fun l r => Body.setOperation l operator r) (Body.pass_naming h l)
      (Body.pass_naming h r)
  | .phrase ps => congrArg Body.phrase (passPhrase_naming h ps)

theorem Select.pass_naming (h : ∀ i, p.ident (g (f i)) = g (p.ident (f i))) :
    ∀ s : Select, Select.passM p (s.passM (naming f g)) = s.passM (p.afterNaming f g)
  | .mk opening items target sources clauses => by
    show Select.mk (passPhrase p (passPhrase (naming f g) opening))
      (passItems p (passItems (naming f g) items)) target
      (passSources p (passSources (naming f g) sources))
      (passPhrase p (passPhrase (naming f g) clauses)) = _
    rw [passPhrase_naming h opening, passItems_naming h items, passSources_naming h sources,
      passPhrase_naming h clauses]
    rfl

theorem passItems_naming (h : ∀ i, p.ident (g (f i)) = g (p.ident (f i))) :
    ∀ items : List (Expr × Option Ident),
      passItems p (passItems (naming f g) items) = passItems (p.afterNaming f g) items
  | [] => rfl
  | (e, a) :: items => by
    show (Expr.passM p (e.passM (naming f g)), (a.map (naming f g).ident).map p.ident) ::
      passItems p (passItems (naming f g) items) = _
    rw [Expr.pass_naming h e, optionMap_naming, passItems_naming h items]
    rfl

theorem passSources_naming (h : ∀ i, p.ident (g (f i)) = g (p.ident (f i))) :
    ∀ ss : List Source,
      passSources p (passSources (naming f g) ss) = passSources (p.afterNaming f g) ss
  | [] => rfl
  | s :: ss => congrArg₂ List.cons (Source.pass_naming h s) (passSources_naming h ss)

theorem Source.pass_naming (h : ∀ i, p.ident (g (f i)) = g (p.ident (f i))) :
    ∀ s : Source, Source.passM p (s.passM (naming f g)) = s.passM (p.afterNaming f g)
  | .mk relation joins =>
    congrArg₂ Source.mk (Relation.pass_naming h relation) (passJoins_naming h joins)

/-- A pass after a renaming of a relation is one pass over the relation. -/
theorem Relation.pass_naming (h : ∀ i, p.ident (g (f i)) = g (p.ident (f i))) :
    ∀ r : Relation, Relation.passM p (r.passM (naming f g)) = r.passM (p.afterNaming f g)
  | .table name isCall detail a tail => by
    -- both passes leave the name of a call alone
    have hname : (if isCall then (if isCall then name else name.map (naming f g).ident)
        else (if isCall then name else name.map (naming f g).ident).map p.ident) =
        if isCall then name else name.map (p.afterNaming f g).ident := by
      cases isCall with
      | true => rfl
      | false => exact map_naming name
    show p.relation (.table (if isCall then (if isCall then name else name.map (naming f g).ident)
        else (if isCall then name else name.map (naming f g).ident).map p.ident) isCall
      (passPhrase p (passPhrase (naming f g) detail))
      ((a.map (·.pass (naming f g))).map (·.pass p))
      (passPhrase p (passPhrase (naming f g) tail))) = _
    rw [hname, passPhrase_naming h detail, TableAlias.pass_naming, passPhrase_naming h tail]
    rfl
  | .derived lateral q a => by
    show p.relation (.derived lateral (Query.passM p (q.passM (naming f g)))
      ((a.map (·.pass (naming f g))).map (·.pass p))) = _
    rw [Query.pass_naming h q, TableAlias.pass_naming]
    rfl
  | .nested source a => congrArg (fun s => p.relation (.nested s a)) (Source.pass_naming h source)
  | .form ps a tail =>
    congrArg (fun ps => p.relation (.form ps a tail)) (passPhrase_naming h ps)

theorem passJoins_naming (h : ∀ i, p.ident (g (f i)) = g (p.ident (f i))) :
    ∀ js : List Join, passJoins p (passJoins (naming f g) js) = passJoins (p.afterNaming f g) js
  | [] => rfl
  | .mk words relation condition :: js => by
    show Join.mk words (Relation.passM p (relation.passM (naming f g)))
      (passPhrase p (passPhrase (naming f g) condition)) :: passJoins p (passJoins (naming f g) js) = _
    rw [Relation.pass_naming h relation, passPhrase_naming h condition, passJoins_naming h js]
    rfl

end

end

end DatasetSql.Statement

namespace DatasetSql

open Statement

/-- Changing names and then passing over the result is one pass. The second pass must not tell
apart whether a name that is an expression was changed before or after. -/
theorem Statement.pass_naming {p : Pass Id} {f g : Ident → Ident}
    (h : ∀ i, p.ident (g (f i)) = g (p.ident (f i))) (s : Statement) :
    (s.pass (naming f g)).pass p = s.pass (p.afterNaming f g) := by
  cases s with
  | query q => exact congrArg Statement.query (Query.pass_naming h q)
  | command ps => exact congrArg Statement.command (passPhrase_naming h ps)

end DatasetSql
