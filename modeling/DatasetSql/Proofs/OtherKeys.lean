import DatasetSql.Proofs.Capture
import DatasetSql.Proofs.TableList

/-!
# Targets that read other keys

A query that a key stands for should not read another key of the mapping: what a target brings into a
statement is not searched again. When a mapping is read, such a query is refused unless a `WITH` clause
of its own binds the name. But it is not looked at where: a clause anywhere in the query is enough, also
for references that are out of its scope. So no query reads another key without such a clause, and a
mapping is sound exactly if every reference to a name that is a key and is bound somewhere in the same
query stands where it is bound.
-/

namespace DatasetSql.Statement

/-! ## Places and nodes -/

section

variable {sc : Scoping}

theorem filterMap_identNodes (is : List Ident) :
    (identNodes is).filterMap Node.relation? = [] := by
  induction is with
  | nil => rfl
  | cons i is ih => exact ih

theorem filterMap_expr (e : Expr) (ns : List Node) :
    (Node.expr e :: ns).filterMap Node.relation? = ns.filterMap Node.relation? := rfl

theorem filterMap_query (q : Query) (ns : List Node) :
    (Node.query q :: ns).filterMap Node.relation? = ns.filterMap Node.relation? := rfl

theorem filterMap_relation (r : Relation) (ns : List Node) :
    (Node.relation r :: ns).filterMap Node.relation? = r :: ns.filterMap Node.relation? := rfl

-- Places are listed in the order in which relations are written, whatever is bound around them.
mutual

/-- The relations at the places of a part are those among its nodes, in the same order. -/
theorem Part.relations_places (bound : List String) (x : Part) :
    (x.places sc (fun _ => false) bound).map Place.relation = x.nodes.filterMap Node.relation? := by
  cases x with
  | words s => rfl
  | literal v => rfl
  | expr e => exact Expr.relations_places bound e
  | query q => exact Query.relations_places bound q
  | source s => exact Source.relations_places bound s
  | late ps => exact relations_placesInPhrase bound ps

theorem relations_placesInPhrase (bound : List String) (ps : List Part) :
    (placesInPhrase sc (fun _ => false) bound ps).map Place.relation =
      (phraseNodes ps).filterMap Node.relation? := by
  cases ps with
  | nil => rfl
  | cons x ps =>
    rw [placesInPhrase, List.map_append, phraseNodes, List.filterMap_append,
      Part.relations_places bound x, relations_placesInPhrase bound ps]

/-- The relations at the places of an expression are those among its nodes. -/
theorem Expr.relations_places (bound : List String) (e : Expr) :
    (e.places sc (fun _ => false) bound).map Place.relation = e.nodes.filterMap Node.relation? := by
  cases e with
  | ident i => rfl
  | compound is => exact (filterMap_identNodes is).symm
  | value v => rfl
  | call name tail => exact relations_placesInPhrase bound tail
  | binary l o r =>
    rw [Expr.places, List.map_append, Expr.nodes, filterMap_expr, List.filterMap_append,
      Expr.relations_places bound l, Expr.relations_places bound r]
  | subquery q => exact Query.relations_places bound q
  | form t ps => exact relations_placesInPhrase bound ps

theorem relations_placesInExpr? (bound : List String) (e : Option Expr) :
    (placesInExpr? sc (fun _ => false) bound e).map Place.relation =
      (exprNodes? e).filterMap Node.relation? := by
  cases e with
  | none => rfl
  | some e => exact Expr.relations_places bound e

/-- The relations at the places of a query are those among its nodes; what is bound changes none of
them. -/
theorem Query.relations_places (bound : List String) (q : Query) :
    (q.places sc (fun _ => false) bound).map Place.relation = q.nodes.filterMap Node.relation? := by
  obtain ⟨recursive, ctes, body, order, limit, offset, unit, detail, fetch, fetched, closing⟩ := q
  simp only [Query.places, Query.nodes, List.map_append, filterMap_query, List.filterMap_append,
    relations_placesInCtes recursive bound _ [] ctes, Body.relations_places _ body,
    relations_placesInPhrase _ order, relations_placesInExpr? _ limit,
    relations_placesInExpr? _ offset, relations_placesInPhrase _ detail,
    relations_placesInExpr? _ fetched]

theorem relations_placesInCtes (recursive : Bool) (bound all before : List String)
    (ctes : List Cte) :
    (placesInCtes sc (fun _ => false) recursive bound all before ctes).map Place.relation =
      (cteNodes ctes).filterMap Node.relation? := by
  cases ctes with
  | nil => rfl
  | cons cte ctes =>
    obtain ⟨a, materialized, q, origin⟩ := cte
    rw [placesInCtes, List.map_append, cteNodes, List.filterMap_append, List.filterMap_append,
      filterMap_identNodes, List.nil_append, Query.relations_places _ q,
      relations_placesInCtes recursive bound all _ ctes]

theorem Body.relations_places (bound : List String) (b : Body) :
    (b.places sc (fun _ => false) bound).map Place.relation = b.nodes.filterMap Node.relation? := by
  cases b with
  | select s => exact Select.relations_places bound s
  | query q => exact Query.relations_places bound q
  | setOperation l o r =>
    rw [Body.places, List.map_append, Body.nodes, List.filterMap_append,
      Body.relations_places bound l, Body.relations_places bound r]
  | phrase ps => exact relations_placesInPhrase bound ps

theorem Select.relations_places (bound : List String) (s : Select) :
    (s.places sc (fun _ => false) bound).map Place.relation = s.nodes.filterMap Node.relation? := by
  obtain ⟨opening, items, target, sources, clauses⟩ := s
  simp only [Select.places, Select.nodes, List.map_append, List.filterMap_append,
    relations_placesInPhrase bound opening, relations_placesInItems bound items,
    relations_placesInSources bound sources, relations_placesInPhrase bound clauses]

theorem relations_placesInItems (bound : List String) (items : List (Expr × Option Ident)) :
    (placesInItems sc (fun _ => false) bound items).map Place.relation =
      (itemNodes items).filterMap Node.relation? := by
  cases items with
  | nil => rfl
  | cons item items =>
    rw [placesInItems, List.map_append, itemNodes, List.filterMap_append, List.filterMap_append,
      filterMap_identNodes, List.append_nil, Expr.relations_places bound item.1,
      relations_placesInItems bound items]

theorem relations_placesInSources (bound : List String) (ss : List Source) :
    (placesInSources sc (fun _ => false) bound ss).map Place.relation =
      (sourceNodes ss).filterMap Node.relation? := by
  cases ss with
  | nil => rfl
  | cons s ss =>
    rw [placesInSources, List.map_append, sourceNodes, List.filterMap_append,
      Source.relations_places bound s, relations_placesInSources bound ss]

theorem Source.relations_places (bound : List String) (s : Source) :
    (s.places sc (fun _ => false) bound).map Place.relation = s.nodes.filterMap Node.relation? := by
  obtain ⟨r, js⟩ := s
  rw [Source.places, List.map_append, Source.nodes, List.filterMap_append,
    Relation.relations_places bound r, relations_placesInJoins bound js]

/-- The relations at the places of a relation are itself and those among the nodes inside of it. -/
theorem Relation.relations_places (bound : List String) (r : Relation) :
    (r.places sc (fun _ => false) bound).map Place.relation = r.nodes.filterMap Node.relation? := by
  cases r with
  | table name isCall detail a tail =>
    simp only [Relation.places, if_neg Bool.false_ne_true, Relation.nodes, List.map_cons,
      List.map_append, filterMap_relation, List.filterMap_append, aliasNodes, filterMap_identNodes,
      relations_placesInPhrase bound detail, relations_placesInPhrase bound tail, List.nil_append,
      List.append_nil]
  | derived lateral q a =>
    simp only [Relation.places, if_neg Bool.false_ne_true, Relation.nodes, List.map_cons,
      filterMap_relation, List.filterMap_append, aliasNodes, filterMap_identNodes,
      Query.relations_places bound q, List.append_nil]
  | nested s a =>
    simp only [Relation.places, if_neg Bool.false_ne_true, Relation.nodes, List.map_cons,
      filterMap_relation, Source.relations_places bound s]
  | form ps a tail =>
    simp only [Relation.places, if_neg Bool.false_ne_true, Relation.nodes, List.map_cons,
      filterMap_relation, relations_placesInPhrase bound ps]

theorem relations_placesInJoins (bound : List String) (js : List Join) :
    (placesInJoins sc (fun _ => false) bound js).map Place.relation =
      (joinNodes js).filterMap Node.relation? := by
  cases js with
  | nil => rfl
  | cons j js =>
    obtain ⟨words, r, condition⟩ := j
    rw [placesInJoins, List.map_append, List.map_append, joinNodes, List.filterMap_append,
      List.filterMap_append, Relation.relations_places bound r,
      relations_placesInPhrase bound condition, relations_placesInJoins bound js]

end

end

/-- The table that is read at a place means a common table expression. -/
def Place.IsBound (sc : Scoping) (p : Place) : Prop := ∃ x, p.reading? sc = some x ∧ x.IsBound

/-- Whether a place reads a bound name can be computed. -/
theorem Place.isBound_iff {sc : Scoping} {p : Place} :
    p.IsBound sc ↔ (p.reading? sc).any (fun x => decide x.IsBound) = true := by
  simp [IsBound, Option.any_eq_true]

instance (sc : Scoping) (p : Place) : Decidable (p.IsBound sc) :=
  decidable_of_iff _ Place.isBound_iff.symm

/-- A common table expression at any depth of a relation binds a name. -/
def Relation.Binds (r : Relation) (name : String) : Prop :=
  ∃ q, Node.query q ∈ r.nodes ∧ q.Binds name

end DatasetSql.Statement

namespace DatasetSql.TableMapping

open Statement

variable {m : TableMapping} {sc : Scoping}

/-- The target of a key refers at a place to a table that has the name of another key. -/
structure ReadsOther (m : TableMapping) (sc : Scoping) (key : String) (target : Relation)
    (name : String) (p : Place) : Prop where
  place : p ∈ target.places sc (fun _ => false) []
  refers : ∃ asName, p.relation.RefersTo (name, asName)
  isKey : name ∈ m.keys
  other : name ≠ key

/-- No query of a mapping reads another key: what has the name of one is bound by the query where it
stands. -/
def Closed (m : TableMapping) (sc : Scoping) : Prop :=
  ∀ key target, (key, .subquery target) ∈ m.entries → ∀ name p,
    m.ReadsOther sc key target name p → p.IsBound sc

/-- Substitution leaves no key in the queries that it puts into a statement: what has the name of
another key than the one that is replaced is bound by the query that comes in. -/
def LeavesNoKey (m : TableMapping) (sc : Scoping) (s : Statement) : Prop :=
  ∀ site ∈ m.sites sc s, ∀ key asName, site.relation.RefersTo (key, asName) → ∀ lateral q a,
    m.Replaces site.relation (.derived lateral q a) → ∀ name p,
      m.ReadsOther sc key (.derived lateral q a) name p → p.IsBound sc

/-- The names of other keys that targets read where they are not bound. -/
def loose (m : TableMapping) (sc : Scoping) : List String :=
  m.entries.flatMap fun (key, target) =>
    match target with
    | .relation _ => []
    | .subquery r => (r.places sc (fun _ => false) []).flatMap fun p =>
      (p.relation.tableKey?.map Prod.fst).toList.filter fun name =>
        name ∈ m.keys ∧ name ≠ key ∧ ¬ p.IsBound sc

/-! ## What the check makes sure of -/

/-- A target is a table, or a query that reads no table with the name of another key. -/
theorem target_of_read {entries : List (String × String)} {source : Option Dialect}
    (h : read entries source = .ok m) {key : String} {t : MappingTarget} (ht : (key, t) ∈ m.entries) :
    (∃ name isCall detail a tail, t = .relation (.table name isCall detail a tail)) ∨
      ∃ lateral q a, t = .subquery (.derived lateral q a) ∧
        ∀ name ∈ tablesOf [.query q], name ≠ key → name ∉ m.keys := by
  obtain ⟨out, hout, h⟩ := bind_eq_ok.1 h
  cases h
  obtain ⟨hkeys, htargets⟩ := targets_of_readEntries hout
  obtain ⟨⟨value, hvalue⟩, hreads⟩ := htargets _ ht
  refine (form_of_readTarget hvalue).imp_right ?_
  rintro ⟨lateral, q, a, rfl⟩
  refine ⟨lateral, q, a, rfl, fun name hname hne => ?_⟩
  rw [keys, hkeys]
  exact hreads name hname hne

/-- A target that is a query reads no key of the mapping but its own, as far as names are
collected. -/
theorem query_of_read {entries : List (String × String)} {source : Option Dialect}
    (h : read entries source = .ok m) {key : String} {r : Relation}
    (hr : (key, .subquery r) ∈ m.entries) :
    ∃ lateral q a, r = .derived lateral q a ∧
      ∀ name ∈ tablesOf [.query q], name ≠ key → name ∉ m.keys := by
  obtain ⟨_, _, _, _, _, heq⟩ | ⟨lateral, q, a, heq, hreads⟩ := target_of_read h hr
  · exact nomatch heq
  · exact ⟨lateral, q, a, MappingTarget.subquery.inj heq, hreads⟩

/-- A derived table stands for itself first and then for the tables of its query. -/
theorem mem_relations_of_place {lateral : Bool} {q : Query} {a : Option TableAlias} {p : Place}
    (hp : p ∈ Relation.places sc (fun _ => false) [] (.derived lateral q a)) {k : TableKey}
    (hk : p.relation.RefersTo k) : p.relation ∈ (Statement.query q).relations := by
  have hmem := List.mem_map_of_mem (f := Place.relation) hp
  rw [Relation.relations_places, Relation.nodes, filterMap_relation, List.filterMap_append, aliasNodes,
    filterMap_identNodes, List.append_nil] at hmem
  rcases List.mem_cons.1 hmem with heq | hmem
  · rw [heq] at hk
    exact nomatch hk
  · exact hmem

/-- A target refers to another key only if it binds the name, be it somewhere else. -/
theorem binds_of_readsOther {entries : List (String × String)} {source : Option Dialect}
    (h : read entries source = .ok m) {key : String} {r : Relation}
    (hr : (key, .subquery r) ∈ m.entries) {name : String} {p : Place}
    (hreads : m.ReadsOther sc key r name p) : r.Binds name := by
  obtain ⟨lateral, q, a, rfl, hother⟩ := query_of_read h hr
  obtain ⟨asName, hrefers⟩ := hreads.refers
  have hkey : (name, asName) ∈ (Statement.query q).tableKeys :=
    mem_tableKeys.2 ⟨_, mem_relations_of_place hreads.place hrefers,
      Relation.tableKey?_eq_some_iff.2 hrefers⟩
  have hbound : name ∈ (Statement.query q).boundNames := by
    by_contra hfree
    exact hother name (mem_tablesOf.2 ⟨hfree, asName, hkey⟩) hreads.other hreads.isKey
  obtain ⟨hq', hname⟩ := mem_boundNames.1 hbound
  exact ⟨_, List.mem_cons_of_mem _ (List.mem_append_left _ hq'), hname⟩

/-! ## What is put into a statement -/

/-- What is read in a derived table does not depend on its alias. -/
theorem ReadsOther.underAlias {key name : String} {lateral : Bool} {q : Query}
    {a : Option TableAlias} {p : Place} (h : m.ReadsOther sc key (.derived lateral q a) name p)
    (b : Option TableAlias) : m.ReadsOther sc key (.derived lateral q b) name p := by
  refine ⟨?_, h.refers, h.isKey, h.other⟩
  obtain ⟨asName, hrefers⟩ := h.refers
  rcases List.mem_cons.1 h.place with rfl | hp
  · exact nomatch hrefers
  · exact List.mem_cons_of_mem _ hp

/-- A table that is only named. -/
def tableOf (key : String) : Relation := .table [⟨key, none⟩] false [] none []

/-- The table with the name of a key is replaced by the target of the key. -/
theorem replaces_tableOf {key : String} {lateral : Bool} {q : Query} {a : Option TableAlias}
    (h : (key, .subquery (.derived lateral q a)) ∈ m.entries) :
    m.Replaces (tableOf key) (.derived lateral q (some ⟨⟨key, none⟩, []⟩)) :=
  ⟨_, _, _, _, _, _, rfl, rfl, h, .derived⟩

/-- Substitution leaves no key in any statement exactly if no query of the mapping reads another. -/
theorem closed_iff_leavesNoKey {entries : List (String × String)} {source : Option Dialect}
    (h : read entries source = .ok m) : m.Closed sc ↔ ∀ s, m.LeavesNoKey sc s := by
  constructor
  · intro hclosed s site _ key asName hrefers lateral q a hreplaces name p hreads
    obtain ⟨path, detail, asName', tail, last, target, hsite, hlast, hmem, halias⟩ := hreplaces
    have hkey : last.value = key := by
      have hkey := Relation.tableKey?_eq_some_iff.2 hrefers
      rw [hsite, Relation.tableKey?, hlast] at hkey
      exact (Prod.mk.inj (Option.some.inj hkey)).1
    rw [hkey] at hmem
    obtain ⟨_, _, _, _, _, rfl⟩ | ⟨_, _, b, rfl, -⟩ := target_of_read h hmem
    · cases halias
    · cases halias
      exact hclosed key _ hmem name p (hreads.underAlias b)
  · intro hleaves key r hr name p hreads
    obtain ⟨lateral, q, a, rfl, -⟩ := query_of_read h hr
    -- a statement that reads the key itself puts its target to the test
    have hsite : ⟨[], tableOf key⟩ ∈
        m.sites sc (.command [.source (.mk (tableOf key) [])]) := List.mem_cons_self
    exact hleaves _ _ hsite key none (.table [] ⟨key, none⟩ [] none []) lateral q _
      (replaces_tableOf hr) name p (hreads.underAlias _)

/-- No reading is loose exactly if the mapping is closed. -/
theorem loose_eq_nil_iff : m.loose sc = [] ↔ m.Closed sc := by
  simp only [loose, List.flatMap_eq_nil_iff]
  constructor
  · intro hloose key r hr name p hreads
    obtain ⟨asName, hrefers⟩ := hreads.refers
    have hnone := List.flatMap_eq_nil_iff.1 (hloose _ hr) p hreads.place
    rw [Relation.tableKey?_eq_some_iff.2 hrefers] at hnone
    -- a key that is free here would be in the list
    by_contra hfree
    simp [hreads.isKey, hreads.other, hfree] at hnone
  · rintro hclosed ⟨key, target⟩ hmem
    cases target with
    | relation r => rfl
    | subquery r =>
      refine List.flatMap_eq_nil_iff.2 fun p hp => ?_
      rw [List.filter_eq_nil_iff]
      intro name hname hloose
      obtain ⟨⟨name', asName⟩, hkey, rfl⟩ := Option.map_eq_some_iff.1 (Option.mem_toList.1 hname)
      obtain ⟨hisKey, hother, hfree⟩ := of_decide_eq_true hloose
      exact hfree (hclosed key r hmem name' p
        ⟨hp, ⟨asName, Relation.tableKey?_eq_some_iff.1 hkey⟩, hisKey, hother⟩)

/-- For every accepted mapping and every rule of scopes: the query of a key refers to a table that has
the name of another key only if a `WITH` clause somewhere in the query binds the name. So no query
reads another key exactly if every such reference to a name that the query binds stands in the scope of
that name; and exactly then substitution leaves no key in what it puts into a statement. -/
theorem read_closed_iff {entries : List (String × String)} {source : Option Dialect}
    (h : read entries source = .ok m) (sc : Scoping) :
    (∀ key target, (key, .subquery target) ∈ m.entries → ∀ name p,
      m.ReadsOther sc key target name p → target.Binds name) ∧
    (m.Closed sc ↔ ∀ key target, (key, .subquery target) ∈ m.entries → ∀ name,
      target.Binds name → ∀ p, m.ReadsOther sc key target name p → p.IsBound sc) ∧
    (m.Closed sc ↔ ∀ s, m.LeavesNoKey sc s) := by
  have hbinds {key : String} {target : Relation} (ht : (key, .subquery target) ∈ m.entries)
      {name : String} {p : Place} (hreads : m.ReadsOther sc key target name p) :
      target.Binds name := binds_of_readsOther h ht hreads
  refine ⟨fun key target ht name p => hbinds ht, ?_, closed_iff_leavesNoKey h⟩
  constructor
  · exact fun hclosed key target ht name _ p hreads => hclosed key target ht name p hreads
  · exact fun hbound key target ht name p hreads =>
      hbound key target ht name (hbinds ht hreads) p hreads

/-- A query that binds the name of another key and reads it where it is bound, also inside of another
query. -/
theorem read_closed_iff_nested :
    let query := "WITH b AS (SELECT 1) SELECT (SELECT 1 FROM b) FROM b"
    ∃ m, read [("a", query), ("b", "raw.b")] none = .ok m ∧ m.keys = ["a", "b"] ∧
      m.Closed (.standard .duckdb) ∧ ∀ s, m.LeavesNoKey (.standard .duckdb) s := by
  intro query
  have hrun : (read [("a", query), ("b", "raw.b")] none).toOption.map (fun m =>
      (m.keys, m.loose (.standard .duckdb))) = some (["a", "b"], []) := by decide +kernel
  obtain ⟨m, hm, hrun⟩ := Option.map_eq_some_iff.1 hrun
  obtain ⟨hkeys, hloose⟩ := Prod.mk.inj hrun
  have hm := toOption_eq_some.1 hm
  have hclosed := loose_eq_nil_iff.1 hloose
  exact ⟨m, hm, hkeys, hclosed, (read_closed_iff hm (.standard .duckdb)).2.2.1 hclosed⟩

/-- A query that binds the name of another key in a query inside of it, and reads it outside of that. -/
theorem read_not_closed :
    let query := "SELECT 1 FROM (WITH b AS (SELECT 1) SELECT 1 FROM b) AS s, b"
    ∃ m, read [("a", query), ("b", "raw.b")] none = .ok m ∧ ¬ m.Closed (.standard .duckdb) ∧
      ∃ s, ¬ m.LeavesNoKey (.standard .duckdb) s := by
  intro query
  have hrun : (read [("a", query), ("b", "raw.b")] none).toOption.map
      (·.loose (.standard .duckdb)) = some ["b"] := by decide +kernel
  obtain ⟨m, hm, hloose⟩ := Option.map_eq_some_iff.1 hrun
  have hm := toOption_eq_some.1 hm
  have hopen : ¬ m.Closed (.standard .duckdb) := by
    rw [← loose_eq_nil_iff, hloose]
    exact List.cons_ne_nil _ _
  exact ⟨m, hm, hopen, not_forall.1 fun h => hopen ((closed_iff_leavesNoKey hm).2 h)⟩

end DatasetSql.TableMapping
