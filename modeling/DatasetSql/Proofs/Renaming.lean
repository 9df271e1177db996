import DatasetSql.Statement.Quoting
import Mathlib.Data.List.Forall2

/-!
# Renaming identifiers

Two trees are *renamings* of each other along a relation on identifiers if they differ in the
identifiers of column references, table names, aliases and common table expressions only, and there
by related ones. All else is the same node by node: words, literals, operators, the names of
functions and table functions, the order and number of parts.

A pass that touches identifiers alone gives a renaming along whatever relation its map of
identifiers satisfies (`Statement.renamed_pass`).
-/

namespace DatasetSql.Statement

/-- Aliases whose names are related; the columns are the same. -/
inductive TableAlias.Renamed (R : Ident → Ident → Prop) : TableAlias → TableAlias → Prop
  | mk {name name' : Ident} {columns : List String} (h : R name name') :
    TableAlias.Renamed R ⟨name, columns⟩ ⟨name', columns⟩

mutual

/-- Parts of phrases that are renamings of each other. -/
inductive Part.Renamed (R : Ident → Ident → Prop) : Part → Part → Prop
  | words {s : String} : Part.Renamed R (.words s) (.words s)
  | literal {v : Value} : Part.Renamed R (.literal v) (.literal v)
  | expr {e e' : Expr} (h : Expr.Renamed R e e') : Part.Renamed R (.expr e) (.expr e')
  | query {q q' : Query} (h : Query.Renamed R q q') : Part.Renamed R (.query q) (.query q')
  | source {s s' : Source} (h : Source.Renamed R s s') : Part.Renamed R (.source s) (.source s')
  | late {ps ps' : List Part} (h : List.Forall₂ (Part.Renamed R) ps ps') :
    Part.Renamed R (.late ps) (.late ps')

/-- Expressions that are renamings of each other. A function keeps its name. -/
inductive Expr.Renamed (R : Ident → Ident → Prop) : Expr → Expr → Prop
  | ident {i i' : Ident} (h : R i i') : Expr.Renamed R (.ident i) (.ident i')
  | compound {is is' : List Ident} (h : List.Forall₂ R is is') :
    Expr.Renamed R (.compound is) (.compound is')
  | value {v : Value} : Expr.Renamed R (.value v) (.value v)
  | call {name : ObjectName} {tail tail' : List Part}
    (h : List.Forall₂ (Part.Renamed R) tail tail') :
    Expr.Renamed R (.call name tail) (.call name tail')
  | binary {l l' r r' : Expr} {operator : String} (hl : Expr.Renamed R l l')
    (hr : Expr.Renamed R r r') : Expr.Renamed R (.binary l operator r) (.binary l' operator r')
  | subquery {q q' : Query} (h : Query.Renamed R q q') :
    Expr.Renamed R (.subquery q) (.subquery q')
  | form {tight : Bool} {ps ps' : List Part} (h : List.Forall₂ (Part.Renamed R) ps ps') :
    Expr.Renamed R (.form tight ps) (.form tight ps')

/-- Queries that are renamings of each other. -/
inductive Query.Renamed (R : Ident → Ident → Prop) : Query → Query → Prop
  | mk {recursive : Bool} {ctes ctes' : List Cte} {body body' : Body}
    {order order' detail detail' : List Part}
    {limit limit' offset offset' fetched fetched' : Option Expr} {unit : OffsetUnit}
    {fetch : Option FetchStyle} {closing : String}
    (hctes : List.Forall₂ (Cte.Renamed R) ctes ctes') (hbody : Body.Renamed R body body')
    (horder : List.Forall₂ (Part.Renamed R) order order')
    (hlimit : Option.Rel (Expr.Renamed R) limit limit')
    (hoffset : Option.Rel (Expr.Renamed R) offset offset')
    (hdetail : List.Forall₂ (Part.Renamed R) detail detail')
    (hfetched : Option.Rel (Expr.Renamed R) fetched fetched') :
    Query.Renamed R (.mk recursive ctes body order limit offset unit detail fetch fetched closing)
      (.mk recursive ctes' body' order' limit' offset' unit detail' fetch fetched' closing)

/-- Common table expressions that are renamings of each other. -/
inductive Cte.Renamed (R : Ident → Ident → Prop) : Cte → Cte → Prop
  | mk {a a' : TableAlias} {materialized : String} {q q' : Query} {origin : Option Ident}
    (ha : a.Renamed R a') (hq : Query.Renamed R q q') :
    Cte.Renamed R (.mk a materialized q origin) (.mk a' materialized q' origin)

/-- Bodies of queries that are renamings of each other. -/
inductive Body.Renamed (R : Ident → Ident → Prop) : Body → Body → Prop
  | select {s s' : Select} (h : Select.Renamed R s s') : Body.Renamed R (.select s) (.select s')
  | query {q q' : Query} (h : Query.Renamed R q q') : Body.Renamed R (.query q) (.query q')
  | setOperation {l l' r r' : Body} {operator : String} (hl : Body.Renamed R l l')
    (hr : Body.Renamed R r r') :
    Body.Renamed R (.setOperation l operator r) (.setOperation l' operator r')
  | phrase {ps ps' : List Part} (h : List.Forall₂ (Part.Renamed R) ps ps') :
    Body.Renamed R (.phrase ps) (.phrase ps')

/-- `SELECT`s that are renamings of each other. -/
inductive Select.Renamed (R : Ident → Ident → Prop) : Select → Select → Prop
  | mk {opening opening' clauses clauses' : List Part}
    {items items' : List (Expr × Option Ident)} {target : String} {sources sources' : List Source}
    (hopening : List.Forall₂ (Part.Renamed R) opening opening')
    (hitems : List.Forall₂ (ItemRenamed R) items items')
    (hsources : List.Forall₂ (Source.Renamed R) sources sources')
    (hclauses : List.Forall₂ (Part.Renamed R) clauses clauses') :
    Select.Renamed R (.mk opening items target sources clauses)
      (.mk opening' items' target sources' clauses')

/-- Items of select lists that are renamings of each other. -/
inductive ItemRenamed (R : Ident → Ident → Prop) :
    Expr × Option Ident → Expr × Option Ident → Prop
  | mk {e e' : Expr} {a a' : Option Ident} (he : Expr.Renamed R e e') (ha : Option.Rel R a a') :
    ItemRenamed R (e, a) (e', a')

/-- Sources that are renamings of each other. -/
inductive Source.Renamed (R : Ident → Ident → Prop) : Source → Source → Prop
  | mk {r r' : Relation} {js js' : List Join} (hr : Relation.Renamed R r r')
    (hjs : List.Forall₂ (Join.Renamed R) js js') : Source.Renamed R (.mk r js) (.mk r' js')

/-- Relations that are renamings of each other. A table function keeps its name; of the aliases,
those of tables, calls and derived tables may differ. -/
inductive Relation.Renamed (R : Ident → Ident → Prop) : Relation → Relation → Prop
  | table {name name' : ObjectName} {detail detail' tail tail' : List Part}
    {a a' : Option TableAlias} (hname : List.Forall₂ R name name')
    (hdetail : List.Forall₂ (Part.Renamed R) detail detail')
    (ha : Option.Rel (TableAlias.Renamed R) a a')
    (htail : List.Forall₂ (Part.Renamed R) tail tail') :
    Relation.Renamed R (.table name false detail a tail) (.table name' false detail' a' tail')
  | call {name : ObjectName} {detail detail' tail tail' : List Part} {a a' : Option TableAlias}
    (hdetail : List.Forall₂ (Part.Renamed R) detail detail')
    (ha : Option.Rel (TableAlias.Renamed R) a a')
    (htail : List.Forall₂ (Part.Renamed R) tail tail') :
    Relation.Renamed R (.table name true detail a tail) (.table name true detail' a' tail')
  | derived {lateral : Bool} {q q' : Query} {a a' : Option TableAlias}
    (hq : Query.Renamed R q q') (ha : Option.Rel (TableAlias.Renamed R) a a') :
    Relation.Renamed R (.derived lateral q a) (.derived lateral q' a')
  | nested {s s' : Source} {a : Option TableAlias} (h : Source.Renamed R s s') :
    Relation.Renamed R (.nested s a) (.nested s' a)
  | form {ps ps' : List Part} {a : Option TableAlias} {tail : String}
    (h : List.Forall₂ (Part.Renamed R) ps ps') :
    Relation.Renamed R (.form ps a tail) (.form ps' a tail)

/-- Joins that are renamings of each other. -/
inductive Join.Renamed (R : Ident → Ident → Prop) : Join → Join → Prop
  | mk {words : String} {r r' : Relation} {ps ps' : List Part} (hr : Relation.Renamed R r r')
    (hps : List.Forall₂ (Part.Renamed R) ps ps') :
    Join.Renamed R (.mk words r ps) (.mk words r' ps')

end

/-! ## Passes that touch identifiers alone -/

section Pass

variable {R : Ident → Ident → Prop} {f : Ident → Ident}

/-- Identifiers that are changed one by one. -/
theorem forall₂_map_ident (hf : ∀ i, R i (f i)) (is : List Ident) :
    List.Forall₂ R is (is.map f) := by
  rw [List.forall₂_map_right_iff]
  exact List.forall₂_same.2 fun i _ => hf i

theorem rel_map_ident (hf : ∀ i, R i (f i)) (i : Option Ident) :
    Option.Rel R i (i.map f) := by
  cases i with
  | none => exact .none
  | some i => exact .some (hf i)

theorem rel_map_alias (hf : ∀ i, R i (f i)) (a : Option TableAlias) :
    Option.Rel (TableAlias.Renamed R) a (a.map (·.pass (m := Id) { ident := f })) := by
  cases a with
  | none => exact .none
  | some a => exact .some (.mk (hf a.name))

mutual

-- The pass changes no node but its identifiers, so each case is the matching rule of the relation.
/-- A pass over the identifiers renames a part and changes nothing else of it. -/
theorem Part.renamed_pass (hf : ∀ i, R i (f i)) :
    ∀ x : Part, x.Renamed R (x.passM (m := Id) { ident := f })
  | .words _ => .words
  | .literal _ => .literal
  | .expr e => .expr (Expr.renamed_pass hf e)
  | .query q => .query (Query.renamed_pass hf q)
  | .source s => .source (Source.renamed_pass hf s)
  | .late ps => .late (renamed_passPhrase hf ps)

theorem renamed_passPhrase (hf : ∀ i, R i (f i)) :
    ∀ ps : List Part, List.Forall₂ (Part.Renamed R) ps (passPhrase (m := Id) { ident := f } ps)
  | [] => .nil
  | x :: ps => .cons (Part.renamed_pass hf x) (renamed_passPhrase hf ps)

theorem Expr.renamed_pass (hf : ∀ i, R i (f i)) :
    ∀ e : Expr, e.Renamed R (e.passM (m := Id) { ident := f })
  | .ident i => .ident (hf i)
  | .compound is => .compound (forall₂_map_ident hf is)
  | .value _ => .value
  | .call _ tail => .call (renamed_passPhrase hf tail)
  | .binary l _ r => .binary (Expr.renamed_pass hf l) (Expr.renamed_pass hf r)
  | .subquery q => .subquery (Query.renamed_pass hf q)
  | .form _ ps => .form (renamed_passPhrase hf ps)

theorem renamed_passExpr? (hf : ∀ i, R i (f i)) :
    ∀ e : Option Expr, Option.Rel (Expr.Renamed R) e (passExpr? (m := Id) { ident := f } e)
  | none => .none
  | some e => .some (Expr.renamed_pass hf e)

/-- A pass over the identifiers renames a query and changes nothing else of it. -/
theorem Query.renamed_pass (hf : ∀ i, R i (f i)) :
    ∀ q : Query, q.Renamed R (q.passM (m := Id) { ident := f })
  | .mk _ ctes body order limit offset _ detail _ fetched _ =>
    .mk (renamed_passCtes hf ctes) (Body.renamed_pass hf body) (renamed_passPhrase hf order)
      (renamed_passExpr? hf limit) (renamed_passExpr? hf offset) (renamed_passPhrase hf detail)
      (renamed_passExpr? hf fetched)

theorem renamed_passCtes (hf : ∀ i, R i (f i)) :
    ∀ ctes : List Cte, List.Forall₂ (Cte.Renamed R) ctes (passCtes (m := Id) { ident := f } ctes)
  | [] => .nil
  | .mk a _ q _ :: ctes => .cons (.mk (.mk (hf a.name)) (Query.renamed_pass hf q))
      (renamed_passCtes hf ctes)

theorem Body.renamed_pass (hf : ∀ i, R i (f i)) :
    ∀ b : Body, b.Renamed R (b.passM (m := Id) { ident := f })
  | .select s => .select (Select.renamed_pass hf s)
  | .query q => .query (Query.renamed_pass hf q)
  | .setOperation l _ r => .setOperation (Body.renamed_pass hf l) (Body.renamed_pass hf r)
  | .phrase ps => .phrase (renamed_passPhrase hf ps)

theorem Select.renamed_pass (hf : ∀ i, R i (f i)) :
    ∀ s : Select, s.Renamed R (s.passM (m := Id) { ident := f })
  | .mk opening items _ sources clauses =>
    .mk (renamed_passPhrase hf opening) (renamed_passItems hf items) (renamed_passSources hf sources)
      (renamed_passPhrase hf clauses)

theorem renamed_passItems (hf : ∀ i, R i (f i)) :
    ∀ items : List (Expr × Option Ident),
      List.Forall₂ (ItemRenamed R) items (passItems (m := Id) { ident := f } items)
  | [] => .nil
  | (e, a) :: items => .cons (.mk (Expr.renamed_pass hf e) (rel_map_ident hf a))
      (renamed_passItems hf items)

theorem renamed_passSources (hf : ∀ i, R i (f i)) :
    ∀ ss : List Source, List.Forall₂ (Source.Renamed R) ss (passSources (m := Id) { ident := f } ss)
  | [] => .nil
  | s :: ss => .cons (Source.renamed_pass hf s) (renamed_passSources hf ss)

theorem Source.renamed_pass (hf : ∀ i, R i (f i)) :
    ∀ s : Source, s.Renamed R (s.passM (m := Id) { ident := f })
  | .mk r js => .mk (Relation.renamed_pass hf r) (renamed_passJoins hf js)

/-- A pass over the identifiers renames a relation and changes nothing else of it; the name of a
function stays. -/
theorem Relation.renamed_pass (hf : ∀ i, R i (f i)) :
    ∀ r : Relation, r.Renamed R (r.passM (m := Id) { ident := f })
  | .table name false detail a tail =>
    .table (forall₂_map_ident hf name) (renamed_passPhrase hf detail) (rel_map_alias hf a)
      (renamed_passPhrase hf tail)
  | .table _ true detail a tail =>
    .call (renamed_passPhrase hf detail) (rel_map_alias hf a) (renamed_passPhrase hf tail)
  | .derived _ q a => .derived (Query.renamed_pass hf q) (rel_map_alias hf a)
  | .nested s _ => .nested (Source.renamed_pass hf s)
  | .form ps _ _ => .form (renamed_passPhrase hf ps)

theorem renamed_passJoins (hf : ∀ i, R i (f i)) :
    ∀ js : List Join, List.Forall₂ (Join.Renamed R) js (passJoins (m := Id) { ident := f } js)
  | [] => .nil
  | .mk _ r ps :: js => .cons (.mk (Relation.renamed_pass hf r) (renamed_passPhrase hf ps))
      (renamed_passJoins hf js)

end

end Pass

end DatasetSql.Statement

namespace DatasetSql

open Statement in
/-- Statements that are renamings of each other. -/
inductive Statement.Renamed (R : Ident → Ident → Prop) : Statement → Statement → Prop
  | query {q q' : Query} (h : q.Renamed R q') : Statement.Renamed R (.query q) (.query q')
  | command {ps ps' : Phrase} (h : List.Forall₂ (Part.Renamed R) ps ps') :
    Statement.Renamed R (.command ps) (.command ps')

open Statement in
/-- A pass that touches identifiers alone gives a renaming. -/
theorem Statement.renamed_pass {R : Ident → Ident → Prop} {f : Ident → Ident}
    (hf : ∀ i, R i (f i)) (s : Statement) : s.Renamed R (s.pass { ident := f }) := by
  cases s with
  | query q => exact .query (Query.renamed_pass hf q)
  | command ps => exact .command (renamed_passPhrase hf ps)

end DatasetSql
