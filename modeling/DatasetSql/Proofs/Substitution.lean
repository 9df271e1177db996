import DatasetSql.Proofs.Mapping
import DatasetSql.Proofs.Nodes

/-!
# Substitution is simultaneous

Replacing tables works from the inside out and in place. What comes out is the statement with all
references replaced at once: `Statement.replaceRelations` decides at each relation, from the outside
in, by what stood there before, and never looks into what it puts there.
-/

namespace DatasetSql.Statement

/-! ## Replacing relations at once -/

mutual

/-- A part of a phrase with its relations replaced. -/
def Part.replaceRelations (f : Relation → Option Relation) : Part → Part
  | .words s => .words s
  | .literal v => .literal v
  | .expr e => .expr (e.replaceRelations f)
  | .query q => .query (q.replaceRelations f)
  | .source s => .source (s.replaceRelations f)
  | .late parts => .late (replaceInPhrase f parts)

/-- A phrase with its relations replaced. -/
def replaceInPhrase (f : Relation → Option Relation) : List Part → List Part
  | [] => []
  | p :: ps => p.replaceRelations f :: replaceInPhrase f ps

/-- An expression with its relations replaced. -/
def Expr.replaceRelations (f : Relation → Option Relation) : Expr → Expr
  | .ident i => .ident i
  | .compound is => .compound is
  | .value v => .value v
  | .call name tail => .call name (replaceInPhrase f tail)
  | .binary l operator r => .binary (l.replaceRelations f) operator (r.replaceRelations f)
  | .subquery q => .subquery (q.replaceRelations f)
  | .form tight parts => .form tight (replaceInPhrase f parts)

/-- An expression that may be left out, with its relations replaced. -/
def replaceInExpr? (f : Relation → Option Relation) : Option Expr → Option Expr
  | none => none
  | some e => some (e.replaceRelations f)

/-- A query with its relations replaced. -/
def Query.replaceRelations (f : Relation → Option Relation) : Query → Query
  | .mk recursive ctes body order limit offset unit detail fetch fetched closing =>
    .mk recursive (replaceInCtes f ctes) (body.replaceRelations f) (replaceInPhrase f order)
      (replaceInExpr? f limit) (replaceInExpr? f offset) unit (replaceInPhrase f detail) fetch
      (replaceInExpr? f fetched) closing

/-- Common table expressions with their relations replaced. -/
def replaceInCtes (f : Relation → Option Relation) : List Cte → List Cte
  | [] => []
  | .mk asName materialized q origin :: ctes =>
    .mk asName materialized (q.replaceRelations f) origin :: replaceInCtes f ctes

/-- The body of a query with its relations replaced. -/
def Body.replaceRelations (f : Relation → Option Relation) : Body → Body
  | .select s => .select (s.replaceRelations f)
  | .query q => .query (q.replaceRelations f)
  | .setOperation l operator r =>
    .setOperation (l.replaceRelations f) operator (r.replaceRelations f)
  | .phrase parts => .phrase (replaceInPhrase f parts)

/-- A `SELECT` with its relations replaced. -/
def Select.replaceRelations (f : Relation → Option Relation) : Select → Select
  | .mk opening items target sources clauses =>
    .mk (replaceInPhrase f opening) (replaceInItems f items) target (replaceInSources f sources)
      (replaceInPhrase f clauses)

/-- The items of a select list with their relations replaced. -/
def replaceInItems (f : Relation → Option Relation) :
    List (Expr × Option Ident) → List (Expr × Option Ident)
  | [] => []
  | (e, asName) :: items => (e.replaceRelations f, asName) :: replaceInItems f items

/-- The sources of a `FROM` clause with their relations replaced. -/
def replaceInSources (f : Relation → Option Relation) : List Source → List Source
  | [] => []
  | s :: ss => s.replaceRelations f :: replaceInSources f ss

/-- A source with its relations replaced. -/
def Source.replaceRelations (f : Relation → Option Relation) : Source → Source
  | .mk relation joins => .mk (relation.replaceRelations f) (replaceInJoins f joins)

/-- What takes the place of a relation; if nothing does, the relation with those inside of it
replaced. -/
def Relation.replaceRelations (f : Relation → Option Relation) : Relation → Relation
  | r@(.table name isCall detail asName tail) =>
    (f r).getD (.table name isCall (replaceInPhrase f detail) asName (replaceInPhrase f tail))
  | r@(.derived lateral q asName) => (f r).getD (.derived lateral (q.replaceRelations f) asName)
  | r@(.nested source asName) => (f r).getD (.nested (source.replaceRelations f) asName)
  | r@(.form parts asName tail) => (f r).getD (.form (replaceInPhrase f parts) asName tail)

/-- Joins with their relations replaced. -/
def replaceInJoins (f : Relation → Option Relation) : List Join → List Join
  | [] => []
  | .mk words relation condition :: js =>
    .mk words (relation.replaceRelations f) (replaceInPhrase f condition) :: replaceInJoins f js

end

end DatasetSql.Statement

namespace DatasetSql

open Statement

/-- A statement with its relations replaced. -/
def Statement.replaceRelations (f : Relation → Option Relation) : Statement → Statement
  | .query q => .query (q.replaceRelations f)
  | .command parts => .command (replaceInPhrase f parts)

end DatasetSql

namespace DatasetSql.TableMapping

open Statement

/-! ## The pass from the inside out -/

/-- How many of some nodes are relations that a mapping replaces. -/
def hits (m : TableMapping) (ns : List Node) : Nat :=
  (ns.filterMap Node.relation?).countP fun r => (m.replacement? r).isSome

section Hits

variable (m : TableMapping)

@[simp] theorem hits_nil : m.hits [] = 0 := rfl

@[simp] theorem hits_append (ns ns' : List Node) : m.hits (ns ++ ns') = m.hits ns + m.hits ns' := by
  rw [hits, List.filterMap_append, List.countP_append, hits, hits]

@[simp] theorem hits_expr (e : Expr) (ns : List Node) : m.hits (.expr e :: ns) = m.hits ns := rfl

@[simp] theorem hits_query (q : Query) (ns : List Node) : m.hits (.query q :: ns) = m.hits ns := rfl

@[simp] theorem hits_relation (r : Relation) (ns : List Node) :
    m.hits (.relation r :: ns) = m.hits ns + if (m.replacement? r).isSome then 1 else 0 := by
  show List.countP _ (r :: ns.filterMap Node.relation?) = _
  rw [List.countP_cons, hits]

@[simp] theorem hits_identNodes (is : List Ident) : m.hits (identNodes is) = 0 := by
  induction is with
  | nil => rfl
  | cons i is ih => exact ih

@[simp] theorem hits_aliasNodes (a : Option TableAlias) : m.hits (aliasNodes a) = 0 :=
  m.hits_identNodes _

end Hits

/-- The run that gives `a` and adds `k` to the count. -/
def counted {α : Type} (a : α) (k : Nat) : StateM Nat α := fun n => (a, n + k)

/-- A run that starts when `k` is counted already. -/
def after {α : Type} (k : Nat) (x : StateM Nat α) : StateM Nat α := fun n => x (n + k)

/-- Doing nothing counts nothing. -/
theorem pure_eq_counted {α : Type} (a : α) : (pure a : StateM Nat α) = counted a 0 := rfl

/-- A step after something that was counted counts on from there. -/
theorem counted_bind {α β : Type} (a : α) (k : Nat) (f : α → StateM Nat β) :
    counted a k >>= f = after k (f a) := rfl

/-- Counts of two steps are added. -/
theorem after_counted {α : Type} (a : α) (k l : Nat) :
    after k (counted a l) = counted a (k + l) := by
  funext n
  simp only [after, counted, Nat.add_assoc]

/-- The step at a relation: what takes its place is counted. -/
theorem replace_eq_counted (m : TableMapping) (r : Relation) :
    m.replace r = counted ((m.replacement? r).getD r)
      (if (m.replacement? r).isSome then 1 else 0) := by
  unfold replace
  cases m.replacement? r with
  | none => rfl
  | some r' => rfl

/-- Whether a table is replaced does not depend on what is inside of it, so it may be decided
before the inside is passed over or after. -/
theorem replacement?_table (m : TableMapping) (name : ObjectName) (isCall : Bool)
    (detail detail' tail tail' : List Part) (a : Option TableAlias) :
    m.replacement? (.table name isCall detail a tail) =
      m.replacement? (.table name isCall detail' a tail') := by
  cases isCall with
  | false => rfl
  | true => rfl

/-- The pass that replaces tables. -/
def replacing (m : TableMapping) : Pass (StateM Nat) := { relation := m.replace }

section Replacing

variable (m : TableMapping)

theorem replacing_expr (e : Expr) : m.replacing.expr e = counted e 0 := rfl

theorem replacing_query (q : Query) : m.replacing.query q = counted q 0 := rfl

/-- The pass replaces relations, and nothing else. -/
theorem replacing_relation (r : Relation) : m.replacing.relation r = m.replace r := rfl

theorem map_replacing_ident (is : List Ident) : is.map m.replacing.ident = is := List.map_id is

theorem map_replacing_alias (a : Option TableAlias) : a.map (·.pass m.replacing) = a := by
  cases a with
  | none => rfl
  | some a => rfl

theorem optionMap_replacing_ident (i : Option Ident) : i.map m.replacing.ident = i := by
  cases i with
  | none => rfl
  | some i => rfl

end Replacing

-- Each case runs the children one after the other and adds up what they count.
mutual

/-- The pass replaces the relations of a part at once, and counts those that it hits. -/
theorem passM_part (m : TableMapping) (x : Part) :
    x.passM m.replacing = counted (x.replaceRelations m.replacement?) (m.hits x.nodes) := by
  cases x with
  | words s => rfl
  | literal v => rfl
  | expr e => rw [Part.passM, passM_expr m e, counted_bind, pure_eq_counted, after_counted]; rfl
  | query q => rw [Part.passM, passM_query m q, counted_bind, pure_eq_counted, after_counted]; rfl
  | source s =>
    rw [Part.passM, passM_source m s, counted_bind, pure_eq_counted, after_counted]; rfl
  | late ps =>
    rw [Part.passM, passPhrase_eq_counted m ps, counted_bind, pure_eq_counted, after_counted]; rfl

theorem passPhrase_eq_counted (m : TableMapping) (ps : List Part) :
    passPhrase m.replacing ps =
      counted (replaceInPhrase m.replacement? ps) (m.hits (phraseNodes ps)) := by
  cases ps with
  | nil => rfl
  | cons x ps =>
    simp only [passPhrase, passM_part m x, passPhrase_eq_counted m ps, counted_bind,
      pure_eq_counted, after_counted]
    simp [replaceInPhrase, phraseNodes]

theorem passM_expr (m : TableMapping) (e : Expr) :
    e.passM m.replacing = counted (e.replaceRelations m.replacement?) (m.hits e.nodes) := by
  cases e with
  | ident i => rfl
  -- the parts of a compound name are identifiers, which are never replaced
  | compound is =>
    rw [Expr.passM, map_replacing_ident, replacing_expr]
    simp [Expr.replaceRelations, Expr.nodes]
  | value v => rfl
  | call name tail =>
    rw [Expr.passM, passPhrase_eq_counted m tail, counted_bind, replacing_expr, after_counted]
    rfl
  | binary l o r =>
    simp only [Expr.passM, passM_expr m l, passM_expr m r, counted_bind, replacing_expr,
      after_counted]
    simp [Expr.replaceRelations, Expr.nodes]
  | subquery q =>
    rw [Expr.passM, passM_query m q, counted_bind, replacing_expr, after_counted]
    rfl
  | form t ps =>
    rw [Expr.passM, passPhrase_eq_counted m ps, counted_bind, replacing_expr, after_counted]
    rfl

theorem passExpr?_eq_counted (m : TableMapping) (e : Option Expr) :
    passExpr? m.replacing e =
      counted (replaceInExpr? m.replacement? e) (m.hits (exprNodes? e)) := by
  cases e with
  | none => rfl
  | some e => rw [passExpr?, passM_expr m e, counted_bind, pure_eq_counted, after_counted]; rfl

/-- The pass replaces the relations of a query at once, and counts those that it hits. -/
theorem passM_query (m : TableMapping) (q : Query) :
    q.passM m.replacing = counted (q.replaceRelations m.replacement?) (m.hits q.nodes) := by
  obtain ⟨recursive, ctes, body, order, limit, offset, unit, detail, fetch, fetched, closing⟩ := q
  simp only [Query.passM, passCtes_eq_counted m ctes, passM_body m body,
    passPhrase_eq_counted m order, passExpr?_eq_counted m limit, passExpr?_eq_counted m offset,
    passPhrase_eq_counted m detail, passExpr?_eq_counted m fetched, counted_bind, replacing_query,
    after_counted]
  simp [Query.replaceRelations, Query.nodes]

theorem passCtes_eq_counted (m : TableMapping) (ctes : List Cte) :
    passCtes m.replacing ctes =
      counted (replaceInCtes m.replacement? ctes) (m.hits (cteNodes ctes)) := by
  cases ctes with
  | nil => rfl
  | cons c ctes =>
    obtain ⟨asName, materialized, q, origin⟩ := c
    simp only [passCtes, passM_query m q, passCtes_eq_counted m ctes, counted_bind,
      pure_eq_counted, after_counted]
    simp [replaceInCtes, cteNodes, TableAlias.pass, replacing]

theorem passM_body (m : TableMapping) (b : Body) :
    b.passM m.replacing = counted (b.replaceRelations m.replacement?) (m.hits b.nodes) := by
  cases b with
  | select s =>
    rw [Body.passM, passM_select m s, counted_bind, pure_eq_counted, after_counted]; rfl
  | query q => rw [Body.passM, passM_query m q, counted_bind, pure_eq_counted, after_counted]; rfl
  | setOperation l o r =>
    simp only [Body.passM, passM_body m l, passM_body m r, counted_bind, pure_eq_counted,
      after_counted]
    simp [Body.replaceRelations, Body.nodes]
  | phrase ps =>
    rw [Body.passM, passPhrase_eq_counted m ps, counted_bind, pure_eq_counted, after_counted]; rfl

theorem passM_select (m : TableMapping) (s : Select) :
    s.passM m.replacing = counted (s.replaceRelations m.replacement?) (m.hits s.nodes) := by
  obtain ⟨opening, items, target, sources, clauses⟩ := s
  simp only [Select.passM, passPhrase_eq_counted m opening, passItems_eq_counted m items,
    passSources_eq_counted m sources, passPhrase_eq_counted m clauses, counted_bind,
    pure_eq_counted, after_counted]
  simp [Select.replaceRelations, Select.nodes]

theorem passItems_eq_counted (m : TableMapping) (items : List (Expr × Option Ident)) :
    passItems m.replacing items =
      counted (replaceInItems m.replacement? items) (m.hits (itemNodes items)) := by
  cases items with
  | nil => rfl
  | cons item items =>
    obtain ⟨e, asName⟩ := item
    simp only [passItems, passM_expr m e, passItems_eq_counted m items, counted_bind,
      pure_eq_counted, after_counted, optionMap_replacing_ident]
    simp [replaceInItems, itemNodes]

theorem passSources_eq_counted (m : TableMapping) (ss : List Source) :
    passSources m.replacing ss =
      counted (replaceInSources m.replacement? ss) (m.hits (sourceNodes ss)) := by
  cases ss with
  | nil => rfl
  | cons s ss =>
    simp only [passSources, passM_source m s, passSources_eq_counted m ss, counted_bind,
      pure_eq_counted, after_counted]
    simp [replaceInSources, sourceNodes]

theorem passM_source (m : TableMapping) (s : Source) :
    s.passM m.replacing = counted (s.replaceRelations m.replacement?) (m.hits s.nodes) := by
  obtain ⟨r, js⟩ := s
  simp only [Source.passM, passM_relation m r, passJoins_eq_counted m js, counted_bind,
    pure_eq_counted, after_counted]
  simp [Source.replaceRelations, Source.nodes]

/-- The pass replaces what stands inside of a relation first, then the relation itself. Only tables
are replaced, which have nothing inside that the target would lose. -/
theorem passM_relation (m : TableMapping) (r : Relation) :
    r.passM m.replacing = counted (r.replaceRelations m.replacement?) (m.hits r.nodes) := by
  cases r with
  | table name isCall detail asName tail =>
    simp only [Relation.passM, passPhrase_eq_counted m detail, passPhrase_eq_counted m tail,
      counted_bind, map_replacing_ident, map_replacing_alias, ite_self, replacing_relation,
      replace_eq_counted, after_counted]
    -- what replaces a table does not depend on its phrases, so those may be passed first
    rw [m.replacement?_table name isCall _ detail _ tail]
    simp [Relation.replaceRelations, Relation.nodes, Nat.add_assoc]
  | derived lateral q asName =>
    rw [Relation.passM, passM_query m q, counted_bind, map_replacing_alias, replacing_relation,
      replace_eq_counted, after_counted]
    simp [Relation.replaceRelations, Relation.nodes, replacement?]
  | nested s asName =>
    rw [Relation.passM, passM_source m s, counted_bind, replacing_relation, replace_eq_counted,
      after_counted]
    rfl
  | form ps asName tail =>
    rw [Relation.passM, passPhrase_eq_counted m ps, counted_bind, replacing_relation,
      replace_eq_counted, after_counted]
    rfl

theorem passJoins_eq_counted (m : TableMapping) (js : List Join) :
    passJoins m.replacing js =
      counted (replaceInJoins m.replacement? js) (m.hits (joinNodes js)) := by
  cases js with
  | nil => rfl
  | cons j js =>
    obtain ⟨words, r, condition⟩ := j
    simp only [passJoins, passM_relation m r, passPhrase_eq_counted m condition,
      passJoins_eq_counted m js, counted_bind, pure_eq_counted, after_counted]
    simp [replaceInJoins, joinNodes]

end

/-- Replacing from the inside out is replacing at once, and counts every relation that names a key. -/
theorem substitute_eq (m : TableMapping) (s : Statement) :
    m.substitute s = (s.replaceRelations m.replacement?, m.hits s.nodes) := by
  have h : s.passM m.replacing =
      counted (s.replaceRelations m.replacement?) (m.hits s.nodes) := by
    cases s with
    | query q =>
      rw [Statement.passM, passM_query m q, counted_bind, pure_eq_counted, after_counted]
      rfl
    | command ps =>
      rw [Statement.passM, passPhrase_eq_counted m ps, counted_bind, pure_eq_counted, after_counted]
      rfl
  show s.passM m.replacing 0 = _
  rw [h, counted, Nat.zero_add]

/-! ## What takes the place of a reference -/

/-- The second relation is the first one under another alias. -/
inductive UnderAlias (a : TableAlias) : Relation → Relation → Prop
  | table {name : ObjectName} {isCall : Bool} {detail tail : List Part} {b : Option TableAlias} :
    UnderAlias a (.table name isCall detail b tail) (.table name isCall detail (some a) tail)
  | derived {lateral : Bool} {q : Query} {b : Option TableAlias} :
    UnderAlias a (.derived lateral q b) (.derived lateral q (some a))

/-- What a mapping makes of a reference: a table without arguments whose name ends in a key is
replaced by the key's target, under the alias that the reference has or else under the key, bare. -/
def Replaces (m : TableMapping) (r r' : Relation) : Prop :=
  ∃ name detail asName tail last target,
    r = .table name false detail asName tail ∧ name.getLast? = some last ∧
      (last.value, target) ∈ m.entries ∧
      UnderAlias (asName.getD ⟨⟨last.value, none⟩, []⟩) target.factor r'

/-- Setting an alias gives the relation under that alias. -/
theorem underAlias_setAlias {a : TableAlias} {r r' : Relation} (hr : HasAlias r) :
    setAlias a r = r' ↔ UnderAlias a r r' := by
  constructor
  · rintro rfl
    obtain ⟨name, isCall, detail, b, tail, rfl⟩ | ⟨lateral, q, b, rfl⟩ := hr
    · exact .table
    · exact .derived
  · intro h
    cases h with
    | table => rfl
    | derived => rfl

/-- What takes the place of a relation is its target under the alias that the relation had, or under
its own name. -/
theorem replacement?_eq_some_iff {m : TableMapping} (hm : Accepted m.entries) {r r' : Relation} :
    m.replacement? r = some r' ↔ m.Replaces r r' := by
  constructor
  · intro h
    unfold replacement? at h
    split at h
    next name detail asName tail =>
      split at h
      next last hlast =>
        obtain ⟨target, hget, hset⟩ := Option.map_eq_some_iff.1 h
        have hmem := (get?_eq_some_iff hm).1 hget
        exact ⟨name, detail, asName, tail, last, target, rfl, hlast, hmem,
          (underAlias_setAlias (hm.hasAlias _ hmem)).1 hset⟩
      · exact nomatch h
    · exact nomatch h
  · rintro ⟨name, detail, asName, tail, last, target, rfl, hlast, hmem, halias⟩
    have hset := (underAlias_setAlias (hm.hasAlias _ hmem)).2 halias
    simp only [replacement?, hlast, (get?_eq_some_iff hm).2 hmem, Option.map_some, hset]

/-- For every accepted mapping and every statement, substituting replaces all references to keys at
once, at any depth and nothing else, does not look into what it inserts, and counts exactly the
references. -/
theorem substitute_simultaneous {entries : List (String × String)} {d : Option Dialect}
    {m : TableMapping} (h : read entries d = .ok m) (s : Statement) :
    ∃ f : Relation → Option Relation, (∀ r r', f r = some r' ↔ m.Replaces r r') ∧
      (m.substitute s).1 = s.replaceRelations f ∧
      (m.substitute s).2 = s.relations.countP fun r => (f r).isSome := by
  refine ⟨m.replacement?, fun r r' => replacement?_eq_some_iff (accepted_of_read h), ?_, ?_⟩
  · rw [substitute_eq]
  · rw [substitute_eq]
    rfl

/-- A query that reads its own key is inserted twice, at two depths, and not searched again. -/
theorem substitute_simultaneous_selfReference :
    ∃ m s, read [("orders", "SELECT * FROM orders"), ("items", "raw.items")] none = .ok m ∧
      readOne "SELECT * FROM orders AS o JOIN items WHERE id IN (SELECT id FROM orders)" none =
        .ok s ∧
      ((m.substitute s).1.text, (m.substitute s).2) =
        ("SELECT * FROM (SELECT * FROM orders) AS o JOIN raw.items AS items WHERE id IN " ++
          "(SELECT id FROM (SELECT * FROM orders) AS orders)", 3) ∧
      ∃ f : Relation → Option Relation, (∀ r r', f r = some r' ↔ m.Replaces r r') ∧
        (m.substitute s).1 = s.replaceRelations f ∧
        (m.substitute s).2 = s.relations.countP fun r => (f r).isSome := by
  have hrun :
      ((read [("orders", "SELECT * FROM orders"), ("items", "raw.items")] none).toOption.bind
        fun m =>
          (readOne "SELECT * FROM orders AS o JOIN items WHERE id IN (SELECT id FROM orders)"
            none).toOption.map fun s => ((m.substitute s).1.text, (m.substitute s).2)) =
        some ("SELECT * FROM (SELECT * FROM orders) AS o JOIN raw.items AS items WHERE id IN " ++
          "(SELECT id FROM (SELECT * FROM orders) AS orders)", 3) := by decide +kernel
  obtain ⟨m, hm, hrun⟩ := Option.bind_eq_some_iff.1 hrun
  obtain ⟨s, hs, hrun⟩ := Option.map_eq_some_iff.1 hrun
  have hm := toOption_eq_some.1 hm
  exact ⟨m, s, hm, toOption_eq_some.1 hs, hrun, substitute_simultaneous hm s⟩

end DatasetSql.TableMapping
