import DatasetSql.Proofs.Nodes
import DatasetSql.Statement.Collect
import Mathlib.Algebra.Order.Group.Multiset

/-!
# Collecting misses nothing

A collector reads statements in an order of its own, with the late parts of a phrase last. Still it
sees every node as often as the list of nodes has it. The order is that of the statement: it does not
depend on what is collected.
-/

namespace DatasetSql.Statement

namespace Collector

variable {α : Type} (c : Collector α)

/-- What is collected at a node. -/
def seen : Node → List α
  | .relation r => c.relation r
  | .query q => c.query q
  | .ident _ | .expr _ => []

/-- Collects lists from what is collected. -/
def bind {β : Type} (f : α → List β) : Collector β where
  relation := fun r => (c.relation r).flatMap f
  query := fun q => (c.query q).flatMap f

/-- What is collected at some nodes. -/
def found (ns : List Node) : List α := ns.flatMap c.seen

@[simp] theorem found_nil : c.found [] = [] := rfl

@[simp] theorem found_append (ns ns' : List Node) :
    c.found (ns ++ ns') = c.found ns ++ c.found ns' :=
  List.flatMap_append

@[simp] theorem found_expr (e : Expr) (ns : List Node) : c.found (.expr e :: ns) = c.found ns := rfl

@[simp] theorem found_relation (r : Relation) (ns : List Node) :
    c.found (.relation r :: ns) = c.relation r ++ c.found ns := rfl

@[simp] theorem found_query (q : Query) (ns : List Node) :
    c.found (.query q :: ns) = c.query q ++ c.found ns := rfl

@[simp] theorem found_identNodes (is : List Ident) : c.found (identNodes is) = [] := by
  induction is with
  | nil => rfl
  | cons i is ih => exact ih

@[simp] theorem found_aliasNodes (a : Option TableAlias) : c.found (aliasNodes a) = [] :=
  c.found_identNodes _

end Collector

/-! ## The nodes that are seen -/

section Seen

variable {α : Type} (c : Collector α)

-- The cases differ from the nodes only in the order of their parts.
mutual

/-- The late parts of a phrase are collected behind the others, but as often. -/
theorem coe_collectPhrase (ps : List Part) :
    (collectEarly c ps + collectLate c ps : Multiset α) = c.found (phraseNodes ps) := by
  cases ps with
  | nil => rfl
  | cons p ps =>
    have hps := coe_collectPhrase ps
    cases p with
    | words s => exact hps
    | literal v => exact hps
    | expr e =>
      -- early and late parts change places, which a multiset does not see
      rw [phraseNodes, Part.nodes, Collector.found_append, ← Multiset.coe_add, ← coe_collectExpr e,
        ← hps, ← add_assoc, Multiset.coe_add]
      rfl
    | query q =>
      rw [phraseNodes, Part.nodes, Collector.found_append, ← Multiset.coe_add, ← coe_collectQuery q,
        ← hps, ← add_assoc, Multiset.coe_add]
      rfl
    | source s =>
      rw [phraseNodes, Part.nodes, Collector.found_append, ← Multiset.coe_add,
        ← coe_collectSource s, ← hps, ← add_assoc, Multiset.coe_add]
      rfl
    | late parts =>
      simp only [collectEarly, collectLate, Part.collect, phraseNodes, Part.nodes, List.nil_append,
        Collector.found_append, ← Multiset.coe_add, ← hps, ← coe_collectPhrase parts]
      ac_rfl

/-- What is collected from an expression is what is seen at its nodes, up to the order. -/
theorem coe_collectExpr (e : Expr) : (e.collect c : Multiset α) = c.found e.nodes := by
  cases e with
  | ident i => rfl
  | compound is => rw [Expr.nodes, Collector.found_expr, Collector.found_identNodes, Expr.collect]
  | value v => rfl
  | call name tail =>
    rw [Expr.nodes, Collector.found_expr, ← coe_collectPhrase tail, Multiset.coe_add, Expr.collect]
  | binary l o r =>
    rw [Expr.nodes, Collector.found_expr, Collector.found_append, ← Multiset.coe_add,
      ← coe_collectExpr l, ← coe_collectExpr r, Multiset.coe_add, Expr.collect]
  | subquery q => rw [Expr.nodes, Collector.found_expr, ← coe_collectQuery q, Expr.collect]
  | form t ps =>
    rw [Expr.nodes, Collector.found_expr, ← coe_collectPhrase ps, Multiset.coe_add, Expr.collect]

theorem coe_collectExpr? (e : Option Expr) :
    (collectExpr? c e : Multiset α) = c.found (exprNodes? e) := by
  cases e with
  | none => rfl
  | some e => exact coe_collectExpr e

/-- What is collected from a query is what is seen at its nodes, up to the order. -/
theorem coe_collectQuery (q : Query) : (q.collect c : Multiset α) = c.found q.nodes := by
  obtain ⟨recursive, ctes, body, order, limit, offset, unit, detail, fetch, fetched, closing⟩ := q
  simp only [Query.collect, Query.nodes, Collector.found_query, Collector.found_append,
    ← Multiset.coe_add, coe_collectCtes ctes, coe_collectBody body, ← coe_collectPhrase order,
    coe_collectExpr? limit, coe_collectExpr? offset, ← coe_collectPhrase detail,
    coe_collectExpr? fetched]
  ac_rfl

theorem coe_collectCtes (ctes : List Cte) :
    (collectCtes c ctes : Multiset α) = c.found (cteNodes ctes) := by
  cases ctes with
  | nil => rfl
  | cons cte ctes =>
    obtain ⟨asName, materialized, q, origin⟩ := cte
    simp only [collectCtes, cteNodes, Collector.found_append, Collector.found_identNodes,
      List.nil_append, ← Multiset.coe_add, coe_collectQuery q, coe_collectCtes ctes]

theorem coe_collectBody (b : Body) : (b.collect c : Multiset α) = c.found b.nodes := by
  cases b with
  | select s => exact coe_collectSelect s
  | query q => exact coe_collectQuery q
  | setOperation l o r =>
    simp only [Body.collect, Body.nodes, Collector.found_append, ← Multiset.coe_add,
      coe_collectBody l, coe_collectBody r]
  | phrase ps => exact coe_collectPhrase ps

theorem coe_collectSelect (s : Select) : (s.collect c : Multiset α) = c.found s.nodes := by
  obtain ⟨opening, items, target, sources, clauses⟩ := s
  simp only [Select.collect, Select.nodes, Collector.found_append, ← Multiset.coe_add,
    ← coe_collectPhrase opening, coe_collectItems items, coe_collectSources sources,
    ← coe_collectPhrase clauses]
  ac_rfl

theorem coe_collectItems (items : List (Expr × Option Ident)) :
    (collectItems c items : Multiset α) = c.found (itemNodes items) := by
  cases items with
  | nil => rfl
  | cons item items =>
    obtain ⟨e, asName⟩ := item
    simp only [collectItems, itemNodes, Collector.found_append, Collector.found_identNodes,
      List.append_nil, ← Multiset.coe_add, coe_collectExpr e, coe_collectItems items]

theorem coe_collectSources (ss : List Source) :
    (collectSources c ss : Multiset α) = c.found (sourceNodes ss) := by
  cases ss with
  | nil => rfl
  | cons s ss =>
    simp only [collectSources, sourceNodes, Collector.found_append, ← Multiset.coe_add,
      coe_collectSource s, coe_collectSources ss]

theorem coe_collectSource (s : Source) : (s.collect c : Multiset α) = c.found s.nodes := by
  obtain ⟨r, js⟩ := s
  simp only [Source.collect, Source.nodes, Collector.found_append, ← Multiset.coe_add,
    coe_collectRelation r, coe_collectJoins js]

/-- A relation is seen itself, and so is what stands inside of it. -/
theorem coe_collectRelation (r : Relation) : (r.collect c : Multiset α) = c.found r.nodes := by
  cases r with
  | table name isCall detail asName tail =>
    simp only [Relation.collect, Relation.nodes, Collector.found_relation, Collector.found_append,
      Collector.found_identNodes, Collector.found_aliasNodes, List.nil_append, List.append_nil,
      ← Multiset.coe_add, ← coe_collectPhrase detail, ← coe_collectPhrase tail]
    ac_rfl
  | derived lateral q asName =>
    simp only [Relation.collect, Relation.nodes, Collector.found_relation, Collector.found_append,
      Collector.found_aliasNodes, List.append_nil, ← Multiset.coe_add, coe_collectQuery q]
  | nested s asName =>
    simp only [Relation.collect, Relation.nodes, Collector.found_relation, ← Multiset.coe_add,
      coe_collectSource s]
  | form ps asName tail =>
    simp only [Relation.collect, Relation.nodes, Collector.found_relation, ← Multiset.coe_add,
      ← coe_collectPhrase ps, add_assoc]

theorem coe_collectJoins (js : List Join) :
    (collectJoins c js : Multiset α) = c.found (joinNodes js) := by
  cases js with
  | nil => rfl
  | cons j js =>
    obtain ⟨words, r, condition⟩ := j
    simp only [collectJoins, joinNodes, Collector.found_append, ← Multiset.coe_add,
      coe_collectRelation r, ← coe_collectPhrase condition, coe_collectJoins js, add_assoc]

end

end Seen

/-! ## The order -/

section Order

variable {α β : Type} (c : Collector α) (f : α → List β)

mutual

/-- Putting something in the place of all that a collector finds is collecting with another one, in
the same order. -/
theorem flatMap_partCollect (p : Part) : (p.collect c).flatMap f = p.collect (c.bind f) := by
  cases p with
  | words s => rfl
  | literal v => rfl
  | expr e => exact flatMap_exprCollect e
  | query q => exact flatMap_queryCollect q
  | source s => exact flatMap_sourceCollect s
  | late parts => rfl

theorem flatMap_collectEarly (ps : List Part) :
    (collectEarly c ps).flatMap f = collectEarly (c.bind f) ps := by
  cases ps with
  | nil => rfl
  | cons p ps =>
    rw [collectEarly, List.flatMap_append, flatMap_partCollect p, flatMap_collectEarly ps,
      collectEarly]

theorem flatMap_collectLate (ps : List Part) :
    (collectLate c ps).flatMap f = collectLate (c.bind f) ps := by
  cases ps with
  | nil => rfl
  | cons p ps =>
    have hps := flatMap_collectLate ps
    cases p with
    | words s => exact hps
    | literal v => exact hps
    | expr e => exact hps
    | query q => exact hps
    | source s => exact hps
    | late parts =>
      simp only [collectLate, List.flatMap_append, flatMap_collectEarly parts,
        flatMap_collectLate parts, hps]

theorem flatMap_exprCollect (e : Expr) : (e.collect c).flatMap f = e.collect (c.bind f) := by
  cases e with
  | ident i => rfl
  | compound is => rfl
  | value v => rfl
  | call name tail =>
    simp only [Expr.collect, List.flatMap_append, flatMap_collectEarly tail,
      flatMap_collectLate tail]
  | binary l o r =>
    simp only [Expr.collect, List.flatMap_append, flatMap_exprCollect l, flatMap_exprCollect r]
  | subquery q => exact flatMap_queryCollect q
  | form t ps =>
    simp only [Expr.collect, List.flatMap_append, flatMap_collectEarly ps, flatMap_collectLate ps]

theorem flatMap_collectExpr? (e : Option Expr) :
    (collectExpr? c e).flatMap f = collectExpr? (c.bind f) e := by
  cases e with
  | none => rfl
  | some e => exact flatMap_exprCollect e

theorem flatMap_queryCollect (q : Query) : (q.collect c).flatMap f = q.collect (c.bind f) := by
  obtain ⟨recursive, ctes, body, order, limit, offset, unit, detail, fetch, fetched, closing⟩ := q
  simp only [Query.collect, List.flatMap_append, flatMap_collectCtes ctes, flatMap_bodyCollect body,
    flatMap_collectEarly, flatMap_collectLate, flatMap_collectExpr? limit,
    flatMap_collectExpr? offset, flatMap_collectExpr? fetched, Collector.bind]

theorem flatMap_collectCtes (ctes : List Cte) :
    (collectCtes c ctes).flatMap f = collectCtes (c.bind f) ctes := by
  cases ctes with
  | nil => rfl
  | cons cte ctes =>
    obtain ⟨asName, materialized, q, origin⟩ := cte
    simp only [collectCtes, List.flatMap_append, flatMap_queryCollect q, flatMap_collectCtes ctes]

theorem flatMap_bodyCollect (b : Body) : (b.collect c).flatMap f = b.collect (c.bind f) := by
  cases b with
  | select s => exact flatMap_selectCollect s
  | query q => exact flatMap_queryCollect q
  | setOperation l o r =>
    simp only [Body.collect, List.flatMap_append, flatMap_bodyCollect l, flatMap_bodyCollect r]
  | phrase ps =>
    simp only [Body.collect, List.flatMap_append, flatMap_collectEarly ps, flatMap_collectLate ps]

theorem flatMap_selectCollect (s : Select) : (s.collect c).flatMap f = s.collect (c.bind f) := by
  obtain ⟨opening, items, target, sources, clauses⟩ := s
  simp only [Select.collect, List.flatMap_append, flatMap_collectEarly opening,
    flatMap_collectLate opening, flatMap_collectItems items, flatMap_collectSources sources,
    flatMap_collectEarly clauses, flatMap_collectLate clauses]

theorem flatMap_collectItems (items : List (Expr × Option Ident)) :
    (collectItems c items).flatMap f = collectItems (c.bind f) items := by
  cases items with
  | nil => rfl
  | cons item items =>
    obtain ⟨e, asName⟩ := item
    simp only [collectItems, List.flatMap_append, flatMap_exprCollect e, flatMap_collectItems items]

theorem flatMap_collectSources (ss : List Source) :
    (collectSources c ss).flatMap f = collectSources (c.bind f) ss := by
  cases ss with
  | nil => rfl
  | cons s ss =>
    simp only [collectSources, List.flatMap_append, flatMap_sourceCollect s,
      flatMap_collectSources ss]

theorem flatMap_sourceCollect (s : Source) : (s.collect c).flatMap f = s.collect (c.bind f) := by
  obtain ⟨r, js⟩ := s
  simp only [Source.collect, List.flatMap_append, flatMap_relationCollect r, flatMap_collectJoins js]

theorem flatMap_relationCollect (r : Relation) :
    (r.collect c).flatMap f = r.collect (c.bind f) := by
  cases r with
  | table name isCall detail asName tail =>
    simp only [Relation.collect, List.flatMap_append, flatMap_collectEarly detail,
      flatMap_collectLate detail, flatMap_collectEarly tail, flatMap_collectLate tail,
      Collector.bind]
  | derived lateral q asName =>
    simp only [Relation.collect, List.flatMap_append, flatMap_queryCollect q, Collector.bind]
  | nested s asName =>
    simp only [Relation.collect, List.flatMap_append, flatMap_sourceCollect s, Collector.bind]
  | form ps asName tail =>
    simp only [Relation.collect, List.flatMap_append, flatMap_collectEarly ps,
      flatMap_collectLate ps, Collector.bind]

theorem flatMap_collectJoins (js : List Join) :
    (collectJoins c js).flatMap f = collectJoins (c.bind f) js := by
  cases js with
  | nil => rfl
  | cons j js =>
    obtain ⟨words, r, condition⟩ := j
    simp only [collectJoins, List.flatMap_append, flatMap_relationCollect r,
      flatMap_collectEarly condition, flatMap_collectLate condition, flatMap_collectJoins js]

end

end Order

end DatasetSql.Statement

namespace DatasetSql

open Statement

namespace Statement

variable {α : Type} {c : Collector α}

/-- What is collected from a statement is what is collected at its nodes, each seen once. -/
theorem collect_perm (s : Statement) : (s.collect c).Perm (c.found s.nodes) := by
  rw [← Multiset.coe_eq_coe]
  cases s with
  | query q => exact coe_collectQuery c q
  | command ps => exact coe_collectPhrase c ps

/-- Something is collected from a statement exactly if it is seen at one of its nodes. -/
theorem mem_collect {x : α} (s : Statement) : x ∈ s.collect c ↔ ∃ n ∈ s.nodes, x ∈ c.seen n := by
  rw [s.collect_perm.mem_iff, Collector.found, List.mem_flatMap]

/-- The order of what is found in a statement does not depend on what is put in its place. -/
theorem flatMap_collect {β : Type} (f : α → List β) (s : Statement) :
    (s.collect c).flatMap f = s.collect (c.bind f) := by
  cases s with
  | query q => exact flatMap_queryCollect c f q
  | command ps =>
    simp only [collect, List.flatMap_append, flatMap_collectEarly, flatMap_collectLate]

end Statement

end DatasetSql
