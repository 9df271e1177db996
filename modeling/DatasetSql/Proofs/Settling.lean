import DatasetSql.Proofs.Nodes
import DatasetSql.Statement.Pass
import Mathlib.Logic.Basic

/-!
# Passes that settle

A pass keeps a node if it puts the node itself in its place. Where a pass keeps every node it changes
nothing (`Statement.pass_eq_self`). A pass settles if what it puts in place of a node is made of
nodes that it keeps; then it keeps every node of what it gives (`Statement.keeps_pass`), and passing
twice is passing once.
-/

namespace DatasetSql.Statement

/-- Whether a pass puts a node in the place of that node. -/
def Pass.Keeps (p : Pass Id) : Node → Prop
  | .ident i => p.ident i = i
  | .expr e => p.expr e = e
  | .relation r => p.relation r = r
  | .query q => p.query q = q

/-- Whether a pass keeps some nodes. -/
def Pass.KeepsAll (p : Pass Id) (ns : List Node) : Prop := ∀ n ∈ ns, p.Keeps n

section Keeps

variable {p : Pass Id} {ns ns' : List Node}

@[simp] theorem Pass.keepsAll_nil : p.KeepsAll [] := fun _ h => nomatch h

@[simp] theorem Pass.keepsAll_cons {n : Node} : p.KeepsAll (n :: ns) ↔ p.Keeps n ∧ p.KeepsAll ns :=
  List.forall_mem_cons

@[simp] theorem Pass.keepsAll_append : p.KeepsAll (ns ++ ns') ↔ p.KeepsAll ns ∧ p.KeepsAll ns' :=
  List.forall_mem_append

/-- Identifiers are kept exactly if none of them is passed to another. -/
theorem Pass.keepsAll_identNodes {is : List Ident} :
    p.KeepsAll (identNodes is) ↔ is.map p.ident = is := by
  induction is with
  | nil => simp [identNodes]
  | cons i is ih =>
    rw [identNodes, List.map_cons, Pass.keepsAll_cons, ← identNodes, ih, List.map_cons,
      List.cons.injEq]
    rfl

/-- An alias is kept exactly if its name and its columns are. -/
theorem Pass.keepsAll_aliasNodes {a : Option TableAlias} :
    p.KeepsAll (aliasNodes a) ↔ a.map (·.pass p) = a := by
  cases a with
  | none => simp [aliasNodes, identNodes]
  | some a =>
    obtain ⟨name, columns⟩ := a
    simp [aliasNodes, Pass.keepsAll_identNodes, TableAlias.pass]

theorem Pass.keepsAll_optionIdent {i : Option Ident} :
    p.KeepsAll (identNodes i.toList) ↔ i.map p.ident = i := by
  cases i with
  | none => simp [identNodes]
  | some i => simp [Pass.keepsAll_identNodes]

end Keeps

/-! ## Where every node is kept -/

section

variable {p : Pass Id}

-- The nodes of each part are among those of the whole, and a node that is put together again from
-- its own parts is the node itself.
mutual

/-- A part all of whose nodes are kept is passed to itself. -/
theorem Part.pass_eq_self (x : Part) (h : p.KeepsAll x.nodes) : x.passM p = x := by
  cases x with
  | words s => rfl
  | literal v => rfl
  | expr e => exact congrArg Part.expr (Expr.pass_eq_self e h)
  | query q => exact congrArg Part.query (Query.pass_eq_self q h)
  | source s => exact congrArg Part.source (Source.pass_eq_self s h)
  | late ps => exact congrArg Part.late (passPhrase_eq_self ps h)

theorem passPhrase_eq_self (ps : List Part) (h : p.KeepsAll (phraseNodes ps)) :
    passPhrase p ps = ps := by
  cases ps with
  | nil => rfl
  | cons x ps =>
    simp only [phraseNodes, Pass.keepsAll_append] at h
    exact congrArg₂ List.cons (Part.pass_eq_self x h.1) (passPhrase_eq_self ps h.2)

/-- An expression all of whose nodes are kept is passed to itself: its parts are, and the node that
is put together again is the expression. -/
theorem Expr.pass_eq_self (e : Expr) (h : p.KeepsAll e.nodes) : e.passM p = e := by
  cases e with
  | ident i =>
    obtain ⟨he, hi⟩ := Pass.keepsAll_cons.1 h
    have hi : p.ident i = i := hi _ List.mem_cons_self
    rw [Expr.passM, hi]
    exact he
  | compound is =>
    obtain ⟨he, his⟩ := Pass.keepsAll_cons.1 h
    rw [Expr.passM, Pass.keepsAll_identNodes.1 his]
    exact he
  | value v => exact (Pass.keepsAll_cons.1 h).1
  | call name tail =>
    obtain ⟨he, htail⟩ := Pass.keepsAll_cons.1 h
    have htail : passPhrase p tail = tail := passPhrase_eq_self tail htail
    show p.expr (.call name (passPhrase p tail)) = _
    rw [htail]
    exact he
  | binary l o r =>
    simp only [Expr.nodes, Pass.keepsAll_cons, Pass.keepsAll_append] at h
    obtain ⟨he, hl, hr⟩ := h
    have hl : l.passM p = l := Expr.pass_eq_self l hl
    have hr : r.passM p = r := Expr.pass_eq_self r hr
    show p.expr (.binary (l.passM p) o (r.passM p)) = _
    rw [hl, hr]
    exact he
  | subquery q =>
    obtain ⟨he, hq⟩ := Pass.keepsAll_cons.1 h
    have hq : q.passM p = q := Query.pass_eq_self q hq
    show p.expr (.subquery (q.passM p)) = _
    rw [hq]
    exact he
  | form t ps =>
    obtain ⟨he, hps⟩ := Pass.keepsAll_cons.1 h
    have hps : passPhrase p ps = ps := passPhrase_eq_self ps hps
    show p.expr (.form t (passPhrase p ps)) = _
    rw [hps]
    exact he

theorem passExpr?_eq_self (e : Option Expr) (h : p.KeepsAll (exprNodes? e)) :
    passExpr? p e = e := by
  cases e with
  | none => rfl
  | some e => exact congrArg some (Expr.pass_eq_self e h)

/-- A query all of whose nodes are kept is passed to itself. -/
theorem Query.pass_eq_self (q : Query) (h : p.KeepsAll q.nodes) : q.passM p = q := by
  obtain ⟨recursive, ctes, body, order, limit, offset, unit, detail, fetch, fetched, closing⟩ := q
  simp only [Query.nodes, Pass.keepsAll_cons, Pass.keepsAll_append] at h
  obtain ⟨hq, ⟨⟨⟨⟨⟨hctes, hbody⟩, horder⟩, hlimit⟩, hoffset⟩, hdetail⟩, hfetched⟩ := h
  show p.query (.mk recursive (passCtes p ctes) (body.passM p) (passPhrase p order)
    (passExpr? p limit) (passExpr? p offset) unit (passPhrase p detail) fetch (passExpr? p fetched)
    closing) = _
  rw [passCtes_eq_self ctes hctes, Body.pass_eq_self body hbody, passPhrase_eq_self order horder,
    passExpr?_eq_self limit hlimit, passExpr?_eq_self offset hoffset,
    passPhrase_eq_self detail hdetail, passExpr?_eq_self fetched hfetched]
  exact hq

theorem passCtes_eq_self (ctes : List Cte) (h : p.KeepsAll (cteNodes ctes)) :
    passCtes p ctes = ctes := by
  cases ctes with
  | nil => rfl
  | cons cte ctes =>
    obtain ⟨⟨name, columns⟩, materialized, q, origin⟩ := cte
    simp only [cteNodes, Pass.keepsAll_append] at h
    obtain ⟨⟨hname, hq⟩, hctes⟩ := h
    have hname : p.ident name = name := hname _ List.mem_cons_self
    show Cte.mk ⟨p.ident name, columns⟩ materialized (q.passM p) origin :: passCtes p ctes = _
    rw [hname, Query.pass_eq_self q hq, passCtes_eq_self ctes hctes]

theorem Body.pass_eq_self (b : Body) (h : p.KeepsAll b.nodes) : b.passM p = b := by
  cases b with
  | select s => exact congrArg Body.select (Select.pass_eq_self s h)
  | query q => exact congrArg Body.query (Query.pass_eq_self q h)
  | setOperation l o r =>
    obtain ⟨hl, hr⟩ := Pass.keepsAll_append.1 h
    exact congrArg₂ (fun l r => Body.setOperation l o r) (Body.pass_eq_self l hl)
      (Body.pass_eq_self r hr)
  | phrase ps => exact congrArg Body.phrase (passPhrase_eq_self ps h)

theorem Select.pass_eq_self (s : Select) (h : p.KeepsAll s.nodes) : s.passM p = s := by
  obtain ⟨opening, items, target, sources, clauses⟩ := s
  simp only [Select.nodes, Pass.keepsAll_append] at h
  obtain ⟨⟨⟨hopening, hitems⟩, hsources⟩, hclauses⟩ := h
  show Select.mk (passPhrase p opening) (passItems p items) target (passSources p sources)
    (passPhrase p clauses) = _
  rw [passPhrase_eq_self opening hopening, passItems_eq_self items hitems,
    passSources_eq_self sources hsources, passPhrase_eq_self clauses hclauses]

theorem passItems_eq_self (items : List (Expr × Option Ident)) (h : p.KeepsAll (itemNodes items)) :
    passItems p items = items := by
  cases items with
  | nil => rfl
  | cons item items =>
    obtain ⟨e, a⟩ := item
    simp only [itemNodes, Pass.keepsAll_append] at h
    obtain ⟨⟨he, ha⟩, hitems⟩ := h
    show (e.passM p, a.map p.ident) :: passItems p items = _
    rw [Expr.pass_eq_self e he, Pass.keepsAll_optionIdent.1 ha, passItems_eq_self items hitems]

theorem passSources_eq_self (ss : List Source) (h : p.KeepsAll (sourceNodes ss)) :
    passSources p ss = ss := by
  cases ss with
  | nil => rfl
  | cons s ss =>
    simp only [sourceNodes, Pass.keepsAll_append] at h
    exact congrArg₂ List.cons (Source.pass_eq_self s h.1) (passSources_eq_self ss h.2)

theorem Source.pass_eq_self (s : Source) (h : p.KeepsAll s.nodes) : s.passM p = s := by
  obtain ⟨r, js⟩ := s
  simp only [Source.nodes, Pass.keepsAll_append] at h
  exact congrArg₂ Source.mk (Relation.pass_eq_self r h.1) (passJoins_eq_self js h.2)

/-- A relation all of whose nodes are kept is passed to itself. The name of a call is no node, so
nothing is asked of it. -/
theorem Relation.pass_eq_self (r : Relation) (h : p.KeepsAll r.nodes) : r.passM p = r := by
  cases r with
  | table name isCall detail a tail =>
    simp only [Relation.nodes, Pass.keepsAll_cons, Pass.keepsAll_append] at h
    obtain ⟨hr, ⟨⟨hname, hdetail⟩, ha⟩, htail⟩ := h
    -- the name of a call is not passed at all
    have hname : (if isCall then name else name.map p.ident) = name := by
      cases isCall with
      | true => rfl
      | false => exact Pass.keepsAll_identNodes.1 hname
    show p.relation (.table (if isCall then name else name.map p.ident) isCall
      (passPhrase p detail) (a.map (·.pass p)) (passPhrase p tail)) = _
    rw [hname, passPhrase_eq_self detail hdetail, Pass.keepsAll_aliasNodes.1 ha,
      passPhrase_eq_self tail htail]
    exact hr
  | derived lateral q a =>
    simp only [Relation.nodes, Pass.keepsAll_cons, Pass.keepsAll_append] at h
    obtain ⟨hr, hq, ha⟩ := h
    show p.relation (.derived lateral (q.passM p) (a.map (·.pass p))) = _
    rw [Query.pass_eq_self q hq, Pass.keepsAll_aliasNodes.1 ha]
    exact hr
  | nested s a =>
    obtain ⟨hr, hs⟩ := Pass.keepsAll_cons.1 h
    have hs : s.passM p = s := Source.pass_eq_self s hs
    show p.relation (.nested (s.passM p) a) = _
    rw [hs]
    exact hr
  | form ps a tail =>
    obtain ⟨hr, hps⟩ := Pass.keepsAll_cons.1 h
    have hps : passPhrase p ps = ps := passPhrase_eq_self ps hps
    show p.relation (.form (passPhrase p ps) a tail) = _
    rw [hps]
    exact hr

theorem passJoins_eq_self (js : List Join) (h : p.KeepsAll (joinNodes js)) :
    passJoins p js = js := by
  cases js with
  | nil => rfl
  | cons j js =>
    obtain ⟨words, r, condition⟩ := j
    simp only [joinNodes, Pass.keepsAll_append] at h
    obtain ⟨⟨hr, hcondition⟩, hjs⟩ := h
    show Join.mk words (r.passM p) (passPhrase p condition) :: passJoins p js = _
    rw [Relation.pass_eq_self r hr, passPhrase_eq_self condition hcondition,
      passJoins_eq_self js hjs]

end

end

/-! ## What a pass gives -/

/-- A pass settles if all is kept of what it puts in place of a node whose inside is kept. -/
structure Pass.Settles (p : Pass Id) : Prop where
  ident : ∀ i, p.ident (p.ident i) = p.ident i
  expr : ∀ e, p.KeepsAll e.nodes.tail → p.KeepsAll (p.expr e).nodes
  relation : ∀ r, p.KeepsAll r.nodes.tail → p.KeepsAll (p.relation r).nodes
  query : ∀ q, p.KeepsAll q.nodes.tail → p.KeepsAll (p.query q).nodes

section

variable {p : Pass Id}

/-- Identifiers that were passed by a pass that settles are kept. -/
theorem Pass.Settles.map_ident (h : p.Settles) (is : List Ident) :
    p.KeepsAll (identNodes (is.map p.ident)) := by
  rw [Pass.keepsAll_identNodes, List.map_map]
  exact List.map_congr_left fun i _ => h.ident i

/-- An alias that was passed is kept. -/
theorem Pass.Settles.map_alias (h : p.Settles) (a : Option TableAlias) :
    p.KeepsAll (aliasNodes (a.map (·.pass p))) := by
  cases a with
  | none => exact Pass.keepsAll_nil
  | some a => exact h.map_ident [a.name]

theorem Pass.Settles.optionMap_ident (h : p.Settles) (i : Option Ident) :
    p.KeepsAll (identNodes (i.map p.ident).toList) := by
  cases i with
  | none => exact Pass.keepsAll_nil
  | some i => exact h.map_ident [i]

-- The parts of a node are settled before the node is changed, so each case has what `Settles` asks.
mutual

/-- A pass that settles keeps every node of a part that it gave. -/
theorem Part.keeps_pass (h : p.Settles) (x : Part) : p.KeepsAll (Part.nodes (x.passM p)) := by
  cases x with
  | words s => exact Pass.keepsAll_nil
  | literal v => exact Pass.keepsAll_nil
  | expr e => exact Expr.keeps_pass h e
  | query q => exact Query.keeps_pass h q
  | source s => exact Source.keeps_pass h s
  | late ps => exact keeps_passPhrase h ps

theorem keeps_passPhrase (h : p.Settles) (ps : List Part) :
    p.KeepsAll (phraseNodes (passPhrase p ps)) := by
  cases ps with
  | nil => exact Pass.keepsAll_nil
  | cons x ps => exact Pass.keepsAll_append.2 ⟨Part.keeps_pass h x, keeps_passPhrase h ps⟩

/-- A pass that settles keeps every node of an expression that it gave. The induction gives the
nodes below, and settling the one on top. -/
theorem Expr.keeps_pass (h : p.Settles) (e : Expr) : p.KeepsAll (Expr.nodes (e.passM p)) := by
  cases e with
  | ident i => exact h.expr _ (h.map_ident [i])
  | compound is => exact h.expr _ (h.map_ident is)
  | value v => exact h.expr _ Pass.keepsAll_nil
  | call name tail => exact h.expr (.call name _) (keeps_passPhrase h tail)
  | binary l o r =>
    exact h.expr (.binary _ o _) (Pass.keepsAll_append.2 ⟨Expr.keeps_pass h l, Expr.keeps_pass h r⟩)
  | subquery q => exact h.expr (.subquery _) (Query.keeps_pass h q)
  | form t ps => exact h.expr (.form t _) (keeps_passPhrase h ps)

theorem keeps_passExpr? (h : p.Settles) (e : Option Expr) :
    p.KeepsAll (exprNodes? (passExpr? p e)) := by
  cases e with
  | none => exact Pass.keepsAll_nil
  | some e => exact Expr.keeps_pass h e

/-- A pass that settles keeps every node of a query that it gave. -/
theorem Query.keeps_pass (h : p.Settles) (q : Query) : p.KeepsAll (Query.nodes (q.passM p)) := by
  obtain ⟨recursive, ctes, body, order, limit, offset, unit, detail, fetch, fetched, closing⟩ := q
  refine h.query (.mk recursive _ _ _ _ _ unit _ fetch _ closing) ?_
  simp only [Query.nodes, List.tail_cons, Pass.keepsAll_append]
  exact ⟨⟨⟨⟨⟨⟨keeps_passCtes h ctes, Body.keeps_pass h body⟩, keeps_passPhrase h order⟩,
    keeps_passExpr? h limit⟩, keeps_passExpr? h offset⟩, keeps_passPhrase h detail⟩,
    keeps_passExpr? h fetched⟩

theorem keeps_passCtes (h : p.Settles) (ctes : List Cte) :
    p.KeepsAll (cteNodes (passCtes p ctes)) := by
  cases ctes with
  | nil => exact Pass.keepsAll_nil
  | cons cte ctes =>
    obtain ⟨a, materialized, q, origin⟩ := cte
    have ha : p.KeepsAll (identNodes [p.ident a.name]) := h.map_ident [a.name]
    exact Pass.keepsAll_append.2
      ⟨Pass.keepsAll_append.2 ⟨ha, Query.keeps_pass h q⟩, keeps_passCtes h ctes⟩

theorem Body.keeps_pass (h : p.Settles) (b : Body) : p.KeepsAll (Body.nodes (b.passM p)) := by
  cases b with
  | select s => exact Select.keeps_pass h s
  | query q => exact Query.keeps_pass h q
  | setOperation l o r => exact Pass.keepsAll_append.2 ⟨Body.keeps_pass h l, Body.keeps_pass h r⟩
  | phrase ps => exact keeps_passPhrase h ps

theorem Select.keeps_pass (h : p.Settles) (s : Select) : p.KeepsAll (Select.nodes (s.passM p)) := by
  obtain ⟨opening, items, target, sources, clauses⟩ := s
  show p.KeepsAll (phraseNodes (passPhrase p opening) ++ itemNodes (passItems p items) ++
    sourceNodes (passSources p sources) ++ phraseNodes (passPhrase p clauses))
  simp only [Pass.keepsAll_append]
  exact ⟨⟨⟨keeps_passPhrase h opening, keeps_passItems h items⟩, keeps_passSources h sources⟩,
    keeps_passPhrase h clauses⟩

theorem keeps_passItems (h : p.Settles) (items : List (Expr × Option Ident)) :
    p.KeepsAll (itemNodes (passItems p items)) := by
  cases items with
  | nil => exact Pass.keepsAll_nil
  | cons item items =>
    obtain ⟨e, a⟩ := item
    exact Pass.keepsAll_append.2
      ⟨Pass.keepsAll_append.2 ⟨Expr.keeps_pass h e, h.optionMap_ident a⟩, keeps_passItems h items⟩

theorem keeps_passSources (h : p.Settles) (ss : List Source) :
    p.KeepsAll (sourceNodes (passSources p ss)) := by
  cases ss with
  | nil => exact Pass.keepsAll_nil
  | cons s ss => exact Pass.keepsAll_append.2 ⟨Source.keeps_pass h s, keeps_passSources h ss⟩

theorem Source.keeps_pass (h : p.Settles) (s : Source) : p.KeepsAll (Source.nodes (s.passM p)) := by
  obtain ⟨r, js⟩ := s
  exact Pass.keepsAll_append.2 ⟨Relation.keeps_pass h r, keeps_passJoins h js⟩

/-- A pass that settles keeps every node of a relation that it gave. -/
theorem Relation.keeps_pass (h : p.Settles) (r : Relation) :
    p.KeepsAll (Relation.nodes (r.passM p)) := by
  cases r with
  | table name isCall detail a tail =>
    have hname : p.KeepsAll (identNodes (if isCall then []
        else if isCall then name else name.map p.ident)) := by
      cases isCall with
      | true => exact Pass.keepsAll_nil
      | false => exact h.map_ident name
    refine h.relation (.table _ isCall _ _ _) ?_
    simp only [Relation.nodes, List.tail_cons, Pass.keepsAll_append]
    exact ⟨⟨⟨hname, keeps_passPhrase h detail⟩, h.map_alias a⟩, keeps_passPhrase h tail⟩
  | derived lateral q a =>
    exact h.relation (.derived lateral _ _)
      (Pass.keepsAll_append.2 ⟨Query.keeps_pass h q, h.map_alias a⟩)
  | nested s a => exact h.relation (.nested _ a) (Source.keeps_pass h s)
  | form ps a tail => exact h.relation (.form _ a tail) (keeps_passPhrase h ps)

theorem keeps_passJoins (h : p.Settles) (js : List Join) :
    p.KeepsAll (joinNodes (passJoins p js)) := by
  cases js with
  | nil => exact Pass.keepsAll_nil
  | cons j js =>
    obtain ⟨words, r, condition⟩ := j
    exact Pass.keepsAll_append.2 ⟨Pass.keepsAll_append.2
      ⟨Relation.keeps_pass h r, keeps_passPhrase h condition⟩, keeps_passJoins h js⟩

end

end

end DatasetSql.Statement

namespace DatasetSql

open Statement

variable {p : Pass Id}

/-- A pass that keeps every node of a statement changes nothing in it. -/
theorem Statement.pass_eq_self {s : Statement} (h : p.KeepsAll s.nodes) : s.pass p = s := by
  cases s with
  | query q => exact congrArg Statement.query (Query.pass_eq_self q h)
  | command ps => exact congrArg Statement.command (passPhrase_eq_self ps h)

/-- A pass that settles keeps every node of the statement that it gives. -/
theorem Statement.keeps_pass (h : p.Settles) (s : Statement) : p.KeepsAll (s.pass p).nodes := by
  cases s with
  | query q => exact Query.keeps_pass h q
  | command ps => exact keeps_passPhrase h ps

end DatasetSql
