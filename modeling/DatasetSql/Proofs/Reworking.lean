import DatasetSql.Statement.Pass
import Mathlib.Data.List.Forall2

/-!
# Reworking expressions and queries

One tree is *reworked* into another if each expression and each query, at any depth, is taken over
with what is inside of it reworked, and then related to what takes its place. All else is the same
node by node: words, literals, names and aliases, the order and number of parts.

A pass that touches expressions and queries alone reworks a tree along whatever its two maps satisfy
(`Statement.reworked_pass`).
-/

namespace DatasetSql.Statement

/-- What may take the place of an expression and of a query whose insides are reworked already. -/
structure Rework where
  expr : Expr → Expr → Prop
  query : Query → Query → Prop

mutual

/-- Parts of phrases, reworked. -/
inductive Part.Reworked (R : Rework) : Part → Part → Prop
  | words {s : String} : Part.Reworked R (.words s) (.words s)
  | literal {v : Value} : Part.Reworked R (.literal v) (.literal v)
  | expr {e e' : Expr} (h : Expr.Reworked R e e') : Part.Reworked R (.expr e) (.expr e')
  | query {q q' : Query} (h : Query.Reworked R q q') : Part.Reworked R (.query q) (.query q')
  | source {s s' : Source} (h : Source.Reworked R s s') : Part.Reworked R (.source s) (.source s')
  | late {ps ps' : List Part} (h : List.Forall₂ (Part.Reworked R) ps ps') :
    Part.Reworked R (.late ps) (.late ps')

/-- Expressions, reworked from the inside out. -/
inductive Expr.Reworked (R : Rework) : Expr → Expr → Prop
  | ident {i : Ident} {e' : Expr} (h : R.expr (.ident i) e') : Expr.Reworked R (.ident i) e'
  | compound {is : List Ident} {e' : Expr} (h : R.expr (.compound is) e') :
    Expr.Reworked R (.compound is) e'
  | value {v : Value} {e' : Expr} (h : R.expr (.value v) e') : Expr.Reworked R (.value v) e'
  | call {name : ObjectName} {tail tail' : List Part} {e' : Expr}
    (htail : List.Forall₂ (Part.Reworked R) tail tail') (h : R.expr (.call name tail') e') :
    Expr.Reworked R (.call name tail) e'
  | binary {l l' r r' : Expr} {operator : String} {e' : Expr} (hl : Expr.Reworked R l l')
    (hr : Expr.Reworked R r r') (h : R.expr (.binary l' operator r') e') :
    Expr.Reworked R (.binary l operator r) e'
  | subquery {q q' : Query} {e' : Expr} (hq : Query.Reworked R q q')
    (h : R.expr (.subquery q') e') : Expr.Reworked R (.subquery q) e'
  | form {tight : Bool} {ps ps' : List Part} {e' : Expr}
    (hps : List.Forall₂ (Part.Reworked R) ps ps') (h : R.expr (.form tight ps') e') :
    Expr.Reworked R (.form tight ps) e'

/-- Queries, reworked from the inside out. -/
inductive Query.Reworked (R : Rework) : Query → Query → Prop
  | mk {recursive : Bool} {ctes ctes' : List Cte} {body body' : Body}
    {order order' detail detail' : List Part}
    {limit limit' offset offset' fetched fetched' : Option Expr} {unit : OffsetUnit}
    {fetch : Option FetchStyle} {closing : String} {q' : Query}
    (hctes : List.Forall₂ (Cte.Reworked R) ctes ctes') (hbody : Body.Reworked R body body')
    (horder : List.Forall₂ (Part.Reworked R) order order')
    (hlimit : Option.Rel (Expr.Reworked R) limit limit')
    (hoffset : Option.Rel (Expr.Reworked R) offset offset')
    (hdetail : List.Forall₂ (Part.Reworked R) detail detail')
    (hfetched : Option.Rel (Expr.Reworked R) fetched fetched')
    (h : R.query (.mk recursive ctes' body' order' limit' offset' unit detail' fetch fetched' closing)
      q') :
    Query.Reworked R (.mk recursive ctes body order limit offset unit detail fetch fetched closing) q'

/-- Common table expressions, reworked. -/
inductive Cte.Reworked (R : Rework) : Cte → Cte → Prop
  | mk {a : TableAlias} {materialized : String} {q q' : Query} {origin : Option Ident}
    (hq : Query.Reworked R q q') :
    Cte.Reworked R (.mk a materialized q origin) (.mk a materialized q' origin)

/-- Bodies of queries, reworked. -/
inductive Body.Reworked (R : Rework) : Body → Body → Prop
  | select {s s' : Select} (h : Select.Reworked R s s') : Body.Reworked R (.select s) (.select s')
  | query {q q' : Query} (h : Query.Reworked R q q') : Body.Reworked R (.query q) (.query q')
  | setOperation {l l' r r' : Body} {operator : String} (hl : Body.Reworked R l l')
    (hr : Body.Reworked R r r') :
    Body.Reworked R (.setOperation l operator r) (.setOperation l' operator r')
  | phrase {ps ps' : List Part} (h : List.Forall₂ (Part.Reworked R) ps ps') :
    Body.Reworked R (.phrase ps) (.phrase ps')

/-- `SELECT`s, reworked. -/
inductive Select.Reworked (R : Rework) : Select → Select → Prop
  | mk {opening opening' clauses clauses' : List Part}
    {items items' : List (Expr × Option Ident)} {target : String} {sources sources' : List Source}
    (hopening : List.Forall₂ (Part.Reworked R) opening opening')
    (hitems : List.Forall₂ (ItemReworked R) items items')
    (hsources : List.Forall₂ (Source.Reworked R) sources sources')
    (hclauses : List.Forall₂ (Part.Reworked R) clauses clauses') :
    Select.Reworked R (.mk opening items target sources clauses)
      (.mk opening' items' target sources' clauses')

/-- Items of select lists, reworked. -/
inductive ItemReworked (R : Rework) : Expr × Option Ident → Expr × Option Ident → Prop
  | mk {e e' : Expr} {a : Option Ident} (he : Expr.Reworked R e e') :
    ItemReworked R (e, a) (e', a)

/-- Sources, reworked. -/
inductive Source.Reworked (R : Rework) : Source → Source → Prop
  | mk {r r' : Relation} {js js' : List Join} (hr : Relation.Reworked R r r')
    (hjs : List.Forall₂ (Join.Reworked R) js js') : Source.Reworked R (.mk r js) (.mk r' js')

/-- Relations, reworked. -/
inductive Relation.Reworked (R : Rework) : Relation → Relation → Prop
  | table {name : ObjectName} {isCall : Bool} {detail detail' tail tail' : List Part}
    {a : Option TableAlias} (hdetail : List.Forall₂ (Part.Reworked R) detail detail')
    (htail : List.Forall₂ (Part.Reworked R) tail tail') :
    Relation.Reworked R (.table name isCall detail a tail) (.table name isCall detail' a tail')
  | derived {lateral : Bool} {q q' : Query} {a : Option TableAlias}
    (hq : Query.Reworked R q q') : Relation.Reworked R (.derived lateral q a) (.derived lateral q' a)
  | nested {s s' : Source} {a : Option TableAlias} (h : Source.Reworked R s s') :
    Relation.Reworked R (.nested s a) (.nested s' a)
  | form {ps ps' : List Part} {a : Option TableAlias} {tail : String}
    (h : List.Forall₂ (Part.Reworked R) ps ps') :
    Relation.Reworked R (.form ps a tail) (.form ps' a tail)

/-- Joins, reworked. -/
inductive Join.Reworked (R : Rework) : Join → Join → Prop
  | mk {words : String} {r r' : Relation} {ps ps' : List Part} (hr : Relation.Reworked R r r')
    (hps : List.Forall₂ (Part.Reworked R) ps ps') :
    Join.Reworked R (.mk words r ps) (.mk words r' ps')

end

/-! ## Passes that touch expressions and queries alone -/

section Pass

variable {R : Rework} {f : Expr → Expr} {g : Query → Query}

theorem map_alias_eq_self (a : Option TableAlias) :
    a.map (·.pass (m := Id) { expr := f, query := g }) = a := by
  cases a with
  | none => rfl
  | some a => rfl

mutual

-- The pass goes from the inside out as the relation does, so each case is the matching rule.
/-- A pass over expressions and queries reworks a part node by node, from the leaves up, and touches
nothing else of it. -/
theorem Part.reworked_pass (hf : ∀ e, R.expr e (f e)) (hg : ∀ q, R.query q (g q)) :
    ∀ x : Part, x.Reworked R (x.passM (m := Id) { expr := f, query := g })
  | .words _ => .words
  | .literal _ => .literal
  | .expr e => .expr (Expr.reworked_pass hf hg e)
  | .query q => .query (Query.reworked_pass hf hg q)
  | .source s => .source (Source.reworked_pass hf hg s)
  | .late ps => .late (reworked_passPhrase hf hg ps)

theorem reworked_passPhrase (hf : ∀ e, R.expr e (f e)) (hg : ∀ q, R.query q (g q)) :
    ∀ ps : List Part,
      List.Forall₂ (Part.Reworked R) ps (passPhrase (m := Id) { expr := f, query := g } ps)
  | [] => .nil
  | x :: ps => .cons (Part.reworked_pass hf hg x) (reworked_passPhrase hf hg ps)

/-- A pass reworks an expression after its parts. -/
theorem Expr.reworked_pass (hf : ∀ e, R.expr e (f e)) (hg : ∀ q, R.query q (g q)) :
    ∀ e : Expr, e.Reworked R (e.passM (m := Id) { expr := f, query := g })
  | .ident _ => .ident (hf _)
  | .compound is => by
    show Expr.Reworked R _ (f (.compound (is.map id)))
    rw [List.map_id]
    exact .compound (hf _)
  | .value _ => .value (hf _)
  | .call _ tail => .call (reworked_passPhrase hf hg tail) (hf _)
  | .binary l _ r => .binary (Expr.reworked_pass hf hg l) (Expr.reworked_pass hf hg r) (hf _)
  | .subquery q => .subquery (Query.reworked_pass hf hg q) (hf _)
  | .form _ ps => .form (reworked_passPhrase hf hg ps) (hf _)

theorem reworked_passExpr? (hf : ∀ e, R.expr e (f e)) (hg : ∀ q, R.query q (g q)) :
    ∀ e : Option Expr,
      Option.Rel (Expr.Reworked R) e (passExpr? (m := Id) { expr := f, query := g } e)
  | none => .none
  | some e => .some (Expr.reworked_pass hf hg e)

/-- A pass reworks a query after its parts. -/
theorem Query.reworked_pass (hf : ∀ e, R.expr e (f e)) (hg : ∀ q, R.query q (g q)) :
    ∀ q : Query, q.Reworked R (q.passM (m := Id) { expr := f, query := g })
  | .mk _ ctes body order limit offset _ detail _ fetched _ =>
    .mk (reworked_passCtes hf hg ctes) (Body.reworked_pass hf hg body)
      (reworked_passPhrase hf hg order) (reworked_passExpr? hf hg limit)
      (reworked_passExpr? hf hg offset) (reworked_passPhrase hf hg detail)
      (reworked_passExpr? hf hg fetched) (hg _)

theorem reworked_passCtes (hf : ∀ e, R.expr e (f e)) (hg : ∀ q, R.query q (g q)) :
    ∀ ctes : List Cte,
      List.Forall₂ (Cte.Reworked R) ctes (passCtes (m := Id) { expr := f, query := g } ctes)
  | [] => .nil
  | .mk _ _ q _ :: ctes =>
    .cons (.mk (Query.reworked_pass hf hg q)) (reworked_passCtes hf hg ctes)

theorem Body.reworked_pass (hf : ∀ e, R.expr e (f e)) (hg : ∀ q, R.query q (g q)) :
    ∀ b : Body, b.Reworked R (b.passM (m := Id) { expr := f, query := g })
  | .select s => .select (Select.reworked_pass hf hg s)
  | .query q => .query (Query.reworked_pass hf hg q)
  | .setOperation l _ r =>
    .setOperation (Body.reworked_pass hf hg l) (Body.reworked_pass hf hg r)
  | .phrase ps => .phrase (reworked_passPhrase hf hg ps)

/-- A pass reworks what stands inside of a `SELECT`; its opening words and its target stay. -/
theorem Select.reworked_pass (hf : ∀ e, R.expr e (f e)) (hg : ∀ q, R.query q (g q)) :
    ∀ s : Select, s.Reworked R (s.passM (m := Id) { expr := f, query := g })
  | .mk opening items _ sources clauses =>
    .mk (reworked_passPhrase hf hg opening) (reworked_passItems hf hg items)
      (reworked_passSources hf hg sources) (reworked_passPhrase hf hg clauses)

theorem reworked_passItems (hf : ∀ e, R.expr e (f e)) (hg : ∀ q, R.query q (g q)) :
    ∀ items : List (Expr × Option Ident),
      List.Forall₂ (ItemReworked R) items (passItems (m := Id) { expr := f, query := g } items)
  | [] => .nil
  | (e, a) :: items => by
    have he : ItemReworked R (e, a) (e.passM (m := Id) { expr := f, query := g }, a.map id) := by
      rw [Option.map_id_apply]
      exact .mk (Expr.reworked_pass hf hg e)
    exact .cons he (reworked_passItems hf hg items)

theorem reworked_passSources (hf : ∀ e, R.expr e (f e)) (hg : ∀ q, R.query q (g q)) :
    ∀ ss : List Source,
      List.Forall₂ (Source.Reworked R) ss (passSources (m := Id) { expr := f, query := g } ss)
  | [] => .nil
  | s :: ss => .cons (Source.reworked_pass hf hg s) (reworked_passSources hf hg ss)

theorem Source.reworked_pass (hf : ∀ e, R.expr e (f e)) (hg : ∀ q, R.query q (g q)) :
    ∀ s : Source, s.Reworked R (s.passM (m := Id) { expr := f, query := g })
  | .mk r js => .mk (Relation.reworked_pass hf hg r) (reworked_passJoins hf hg js)

/-- A pass reworks what stands inside of a relation; its name and its alias stay. -/
theorem Relation.reworked_pass (hf : ∀ e, R.expr e (f e)) (hg : ∀ q, R.query q (g q)) :
    ∀ r : Relation, r.Reworked R (r.passM (m := Id) { expr := f, query := g })
  | .table name isCall detail a tail => by
    show Relation.Reworked R _ (.table (if isCall then name else name.map id) isCall _ (a.map _) _)
    rw [List.map_id, ite_self, map_alias_eq_self]
    exact .table (reworked_passPhrase hf hg detail) (reworked_passPhrase hf hg tail)
  | .derived _ q a => by
    show Relation.Reworked R _ (.derived _ _ (a.map _))
    rw [map_alias_eq_self]
    exact .derived (Query.reworked_pass hf hg q)
  | .nested s _ => .nested (Source.reworked_pass hf hg s)
  | .form ps _ _ => .form (reworked_passPhrase hf hg ps)

theorem reworked_passJoins (hf : ∀ e, R.expr e (f e)) (hg : ∀ q, R.query q (g q)) :
    ∀ js : List Join,
      List.Forall₂ (Join.Reworked R) js (passJoins (m := Id) { expr := f, query := g } js)
  | [] => .nil
  | .mk _ r ps :: js => .cons (.mk (Relation.reworked_pass hf hg r) (reworked_passPhrase hf hg ps))
      (reworked_passJoins hf hg js)

end

end Pass

end DatasetSql.Statement

namespace DatasetSql

open Statement in
/-- Statements, reworked. -/
inductive Statement.Reworked (R : Rework) : Statement → Statement → Prop
  | query {q q' : Query} (h : q.Reworked R q') : Statement.Reworked R (.query q) (.query q')
  | command {ps ps' : Phrase} (h : List.Forall₂ (Part.Reworked R) ps ps') :
    Statement.Reworked R (.command ps) (.command ps')

open Statement in
/-- A pass that touches expressions and queries alone reworks a statement along what its two maps
satisfy. -/
theorem Statement.reworked_pass {R : Rework} {f : Expr → Expr} {g : Query → Query}
    (hf : ∀ e, R.expr e (f e)) (hg : ∀ q, R.query q (g q)) (s : Statement) :
    s.Reworked R (s.pass { expr := f, query := g }) := by
  cases s with
  | query q => exact .query (Query.reworked_pass hf hg q)
  | command ps => exact .command (reworked_passPhrase hf hg ps)

end DatasetSql
