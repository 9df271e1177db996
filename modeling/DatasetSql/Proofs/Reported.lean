import DatasetSql.Proofs.Collecting
import DatasetSql.Proofs.Search
import DatasetSql.Proofs.Substitution

/-!
# Reported and replaced tables

Listing tables and replacing them look at the same references, but only the list leaves out the names
that a `WITH` clause binds. So a reference that is replaced without being reported is one to a common
table expression.
-/

namespace DatasetSql

namespace Statement

/-! ## Statements in which nothing is replaced -/

/-- Nothing takes the place of a relation among some nodes. -/
def Untouched (f : Relation → Option Relation) (ns : List Node) : Prop :=
  ∀ r, Node.relation r ∈ ns → f r = none

section Untouched

variable {f : Relation → Option Relation}

@[simp] theorem untouched_append {ns ns' : List Node} :
    Untouched f (ns ++ ns') ↔ Untouched f ns ∧ Untouched f ns' := by
  simp only [Untouched, List.mem_append, or_imp, forall_and]

@[simp] theorem untouched_expr {e : Expr} {ns : List Node} :
    Untouched f (.expr e :: ns) ↔ Untouched f ns := by
  simp [Untouched]

@[simp] theorem untouched_query {q : Query} {ns : List Node} :
    Untouched f (.query q :: ns) ↔ Untouched f ns := by
  simp [Untouched]

@[simp] theorem untouched_relation {r : Relation} {ns : List Node} :
    Untouched f (.relation r :: ns) ↔ f r = none ∧ Untouched f ns := by
  simp only [Untouched, List.mem_cons, Node.relation.injEq, or_imp, forall_and, forall_eq]

-- The nodes of each part are among those of the whole.
mutual

/-- A part without a relation to replace stays as it is. -/
theorem replaceRelations_part (p : Part) (h : Untouched f p.nodes) : p.replaceRelations f = p := by
  cases p with
  | words s => rfl
  | literal v => rfl
  | expr e => rw [Part.replaceRelations, replaceRelations_expr e h]
  | query q => rw [Part.replaceRelations, replaceRelations_query q h]
  | source s => rw [Part.replaceRelations, replaceRelations_source s h]
  | late parts => rw [Part.replaceRelations, replaceInPhrase_eq_self parts h]

theorem replaceInPhrase_eq_self (ps : List Part) (h : Untouched f (phraseNodes ps)) :
    replaceInPhrase f ps = ps := by
  cases ps with
  | nil => rfl
  | cons p ps =>
    simp only [phraseNodes, untouched_append] at h
    rw [replaceInPhrase, replaceRelations_part p h.1, replaceInPhrase_eq_self ps h.2]

theorem replaceRelations_expr (e : Expr) (h : Untouched f e.nodes) : e.replaceRelations f = e := by
  cases e with
  | ident i => rfl
  | compound is => rfl
  | value v => rfl
  | call name tail =>
    rw [Expr.replaceRelations, replaceInPhrase_eq_self tail (untouched_expr.1 h)]
  | binary l o r =>
    simp only [Expr.nodes, untouched_expr, untouched_append] at h
    rw [Expr.replaceRelations, replaceRelations_expr l h.1, replaceRelations_expr r h.2]
  | subquery q => rw [Expr.replaceRelations, replaceRelations_query q (untouched_expr.1 h)]
  | form t ps => rw [Expr.replaceRelations, replaceInPhrase_eq_self ps (untouched_expr.1 h)]

theorem replaceInExpr?_eq_self (e : Option Expr) (h : Untouched f (exprNodes? e)) :
    replaceInExpr? f e = e := by
  cases e with
  | none => rfl
  | some e => rw [replaceInExpr?, replaceRelations_expr e h]

/-- A query without a relation to replace stays as it is. -/
theorem replaceRelations_query (q : Query) (h : Untouched f q.nodes) :
    q.replaceRelations f = q := by
  obtain ⟨recursive, ctes, body, order, limit, offset, unit, detail, fetch, fetched, closing⟩ := q
  simp only [Query.nodes, untouched_query, untouched_append] at h
  obtain ⟨⟨⟨⟨⟨⟨hctes, hbody⟩, horder⟩, hlimit⟩, hoffset⟩, hdetail⟩, hfetched⟩ := h
  rw [Query.replaceRelations, replaceInCtes_eq_self ctes hctes, replaceRelations_body body hbody,
    replaceInPhrase_eq_self order horder, replaceInExpr?_eq_self limit hlimit,
    replaceInExpr?_eq_self offset hoffset, replaceInPhrase_eq_self detail hdetail,
    replaceInExpr?_eq_self fetched hfetched]

theorem replaceInCtes_eq_self (ctes : List Cte) (h : Untouched f (cteNodes ctes)) :
    replaceInCtes f ctes = ctes := by
  cases ctes with
  | nil => rfl
  | cons cte ctes =>
    obtain ⟨asName, materialized, q, origin⟩ := cte
    simp only [cteNodes, untouched_append] at h
    rw [replaceInCtes, replaceRelations_query q h.1.2, replaceInCtes_eq_self ctes h.2]

theorem replaceRelations_body (b : Body) (h : Untouched f b.nodes) : b.replaceRelations f = b := by
  cases b with
  | select s => rw [Body.replaceRelations, replaceRelations_select s h]
  | query q => rw [Body.replaceRelations, replaceRelations_query q h]
  | setOperation l o r =>
    simp only [Body.nodes, untouched_append] at h
    rw [Body.replaceRelations, replaceRelations_body l h.1, replaceRelations_body r h.2]
  | phrase ps => rw [Body.replaceRelations, replaceInPhrase_eq_self ps h]

theorem replaceRelations_select (s : Select) (h : Untouched f s.nodes) :
    s.replaceRelations f = s := by
  obtain ⟨opening, items, target, sources, clauses⟩ := s
  simp only [Select.nodes, untouched_append] at h
  obtain ⟨⟨⟨hopening, hitems⟩, hsources⟩, hclauses⟩ := h
  rw [Select.replaceRelations, replaceInPhrase_eq_self opening hopening,
    replaceInItems_eq_self items hitems, replaceInSources_eq_self sources hsources,
    replaceInPhrase_eq_self clauses hclauses]

theorem replaceInItems_eq_self (items : List (Expr × Option Ident))
    (h : Untouched f (itemNodes items)) : replaceInItems f items = items := by
  cases items with
  | nil => rfl
  | cons item items =>
    obtain ⟨e, asName⟩ := item
    simp only [itemNodes, untouched_append] at h
    rw [replaceInItems, replaceRelations_expr e h.1.1, replaceInItems_eq_self items h.2]

theorem replaceInSources_eq_self (ss : List Source) (h : Untouched f (sourceNodes ss)) :
    replaceInSources f ss = ss := by
  cases ss with
  | nil => rfl
  | cons s ss =>
    simp only [sourceNodes, untouched_append] at h
    rw [replaceInSources, replaceRelations_source s h.1, replaceInSources_eq_self ss h.2]

theorem replaceRelations_source (s : Source) (h : Untouched f s.nodes) :
    s.replaceRelations f = s := by
  obtain ⟨r, js⟩ := s
  simp only [Source.nodes, untouched_append] at h
  rw [Source.replaceRelations, replaceRelations_relation r h.1, replaceInJoins_eq_self js h.2]

/-- A relation stays as it is if neither it nor anything inside of it is replaced. -/
theorem replaceRelations_relation (r : Relation) (h : Untouched f r.nodes) :
    r.replaceRelations f = r := by
  cases r with
  | table name isCall detail asName tail =>
    simp only [Relation.nodes, untouched_relation, untouched_append] at h
    obtain ⟨hr, ⟨⟨-, hdetail⟩, -⟩, htail⟩ := h
    rw [Relation.replaceRelations, hr, Option.getD_none, replaceInPhrase_eq_self detail hdetail,
      replaceInPhrase_eq_self tail htail]
  | derived lateral q asName =>
    simp only [Relation.nodes, untouched_relation, untouched_append] at h
    rw [Relation.replaceRelations, h.1, Option.getD_none, replaceRelations_query q h.2.1]
  | nested s asName =>
    simp only [Relation.nodes, untouched_relation] at h
    rw [Relation.replaceRelations, h.1, Option.getD_none, replaceRelations_source s h.2]
  | form ps asName tail =>
    simp only [Relation.nodes, untouched_relation] at h
    rw [Relation.replaceRelations, h.1, Option.getD_none, replaceInPhrase_eq_self ps h.2]

theorem replaceInJoins_eq_self (js : List Join) (h : Untouched f (joinNodes js)) :
    replaceInJoins f js = js := by
  cases js with
  | nil => rfl
  | cons j js =>
    obtain ⟨words, r, condition⟩ := j
    simp only [joinNodes, untouched_append] at h
    rw [replaceInJoins, replaceRelations_relation r h.1.1, replaceInPhrase_eq_self condition h.1.2,
      replaceInJoins_eq_self js h.2]

end

end Untouched

/-- The relations of a statement are those among its nodes. -/
theorem mem_relations {s : Statement} {r : Relation} :
    r ∈ s.relations ↔ Node.relation r ∈ s.nodes := by
  rw [Statement.relations, List.mem_filterMap]
  constructor
  · rintro ⟨n, hn, hr⟩
    cases n <;> simp only [Node.relation?, reduceCtorEq, Option.some.injEq] at hr
    rwa [← hr]
  · intro hr
    exact ⟨_, hr, rfl⟩

/-- A statement none of whose relations is replaced stays as it is. -/
theorem replaceRelations_eq_self {f : Relation → Option Relation} {s : Statement}
    (h : ∀ r ∈ s.relations, f r = none) : s.replaceRelations f = s := by
  have huntouched : Untouched f s.nodes := fun r hr => h r (mem_relations.2 hr)
  cases s with
  | query q => rw [Statement.replaceRelations, replaceRelations_query q huntouched]
  | command ps => rw [Statement.replaceRelations, replaceInPhrase_eq_self ps huntouched]

/-! ## What is reported -/

/-- The keys of a statement are those of its relations. -/
theorem mem_tableKeys {s : Statement} {k : String × Option String} :
    k ∈ s.tableKeys ↔ ∃ r ∈ s.relations, r.tableKey? = some k := by
  rw [Statement.tableKeys, mem_collect]
  constructor
  · rintro ⟨n, hn, hk⟩
    cases n with
    | relation r => exact ⟨r, mem_relations.2 hn, Option.mem_toList.1 hk⟩
    | ident i => exact nomatch hk
    | expr e => exact nomatch hk
    | query q => exact nomatch hk
  · rintro ⟨r, hr, hk⟩
    exact ⟨_, mem_relations.1 hr, Option.mem_toList.2 hk⟩

/-- A table is reported exactly if a relation reads it and no common table expression has its
name. -/
theorem mem_tablesOf {s : Statement} {name : String} :
    name ∈ tablesOf [s] ↔ name ∉ s.boundNames ∧ ∃ asName, (name, asName) ∈ s.tableKeys := by
  simp only [tablesOf, List.flatMap_singleton, List.mem_map, Text.mem_firstOccurrences,
    List.mem_filter, Bool.not_eq_true', List.contains_eq_mem, decide_eq_false_iff_not]
  constructor
  · rintro ⟨⟨name, asName⟩, ⟨hkey, hbound⟩, rfl⟩
    exact ⟨hbound, asName, hkey⟩
  · rintro ⟨hbound, asName, hkey⟩
    exact ⟨(name, asName), ⟨hkey, hbound⟩, rfl⟩

end Statement

/-- A text that is read as one statement is read as the list of it. -/
theorem readAll_of_readOne {sql : String} {d : Option Dialect} {s : Statement}
    (h : readOne sql d = .ok s) : readAll sql d = .ok [s] := by
  obtain ⟨statements, hread, h⟩ := bind_eq_ok.1 h
  rw [hread]
  split at h
  · exact nomatch h
  · cases h
    rfl
  · exact nomatch h

namespace TableMapping

open Statement

/-- The names that a mapping has targets for. -/
def keys (m : TableMapping) : List String := m.entries.map Prod.fst

variable {m : TableMapping}

/-- A target is found exactly for the keys of a mapping. -/
theorem isSome_get? {name : String} : (m.get? name).isSome ↔ name ∈ m.keys := by
  rw [get?, keys]
  induction m.entries with
  | nil => simp
  | cons e entries ih =>
    obtain ⟨key, target⟩ := e
    rw [List.lookup_cons, List.map_cons, List.mem_cons]
    cases hkey : name == key with
    | true => simp [eq_of_beq hkey]
    | false =>
      have hne : name ≠ key := by simpa using hkey
      simp [hne, ih]

/-- The references that are replaced: those that are listed with a name that is a key. -/
theorem isSome_replacement? {r : Relation} :
    (m.replacement? r).isSome ↔ ∃ name asName, r.tableKey? = some (name, asName) ∧ name ∈ m.keys := by
  cases r with
  | table name isCall detail asName tail =>
    cases isCall with
    | true => simp [replacement?, Relation.tableKey?]
    | false =>
      cases hlast : name.getLast? with
      | none => simp [replacement?, Relation.tableKey?, hlast]
      | some last => simp [replacement?, Relation.tableKey?, hlast, ← isSome_get?]
  | derived lateral q asName => simp [replacement?, Relation.tableKey?]
  | nested s asName => simp [replacement?, Relation.tableKey?]
  | form ps asName tail => simp [replacement?, Relation.tableKey?]

/-- Nothing is replaced exactly if no reference is listed with a name that is a key. -/
theorem substitute_eq_self_iff {s : Statement} :
    m.substitute s = (s, 0) ↔ ∀ k ∈ s.tableKeys, k.1 ∉ m.keys := by
  have hrefs : (∀ k ∈ s.tableKeys, k.1 ∉ m.keys) ↔ ∀ r ∈ s.relations, m.replacement? r = none := by
    constructor
    · intro h r hr
      rw [← Option.not_isSome_iff_eq_none, isSome_replacement?]
      rintro ⟨name, asName, hkey, hname⟩
      exact h _ (mem_tableKeys.2 ⟨r, hr, hkey⟩) hname
    · rintro h ⟨name, asName⟩ hk hname
      obtain ⟨r, hr, hkey⟩ := mem_tableKeys.1 hk
      have hsome := isSome_replacement?.2 ⟨name, asName, hkey, hname⟩
      rw [h r hr] at hsome
      exact nomatch hsome
  -- no replacement is counted exactly if none is made
  rw [hrefs, substitute_eq, Prod.mk.injEq]
  constructor
  · rintro ⟨-, hhits⟩ r hr
    have hr' := List.countP_eq_zero.1 hhits r hr
    simpa using hr'
  · intro h
    exact ⟨replaceRelations_eq_self h, List.countP_eq_zero.2 fun r hr => by simp [h r hr]⟩

/-- A reference is replaced only if its name is reported or bound by a `WITH` clause of the
statement. So if no key is reported, what is replaced is named like a common table expression, and
without such a reference the statement is only quoted. -/
theorem substitute_of_unreported {sql : String} {d : Dialect} {s : Statement} {names : List String}
    (hs : readOne sql (some d) = .ok s) (hnames : tableNames sql (some d) = .ok names) :
    (∀ r ∈ s.relations, (m.replacement? r).isSome →
      ∃ name asName, r.tableKey? = some (name, asName) ∧ name ∈ m.keys ∧
        (name ∈ names ∨ name ∈ s.boundNames)) ∧
    ((∀ key ∈ m.keys, key ∉ names) →
      (m.substitute s = (s, 0) ↔ ∀ k ∈ s.tableKeys, k.1 ∈ m.keys → k.1 ∉ s.boundNames)) ∧
    ((∀ key ∈ m.keys, key ∉ names ∧ key ∉ s.boundNames) →
      m.substitute s = (s, 0) ∧ replaceTables sql m d = .ok (quoteNames d s).text) := by
  obtain rfl : tablesOf [s] = names := by
    rw [tableNames, readAll_of_readOne hs] at hnames
    exact Except.ok.inj hnames
  -- a name read as a table is listed unless the statement binds it
  have hlisted {name : String} {asName : Option String} (hk : (name, asName) ∈ s.tableKeys) :
      name ∈ tablesOf [s] ∨ name ∈ s.boundNames := by
    by_cases hbound : name ∈ s.boundNames
    · exact .inr hbound
    · exact .inl (mem_tablesOf.2 ⟨hbound, asName, hk⟩)
  refine ⟨fun r hr hsome => ?_, fun hkeys => ?_, fun hkeys => ?_⟩
  · obtain ⟨name, asName, hkey, hname⟩ := isSome_replacement?.1 hsome
    exact ⟨name, asName, hkey, hname, hlisted (mem_tableKeys.2 ⟨r, hr, hkey⟩)⟩
  · rw [substitute_eq_self_iff]
    constructor
    · exact fun h k hk hkey => absurd hkey (h k hk)
    · rintro h ⟨name, asName⟩ hk hkey
      exact (hlisted hk).elim (hkeys name hkey) (h _ hk hkey)
  · have hself : m.substitute s = (s, 0) := by
      rw [substitute_eq_self_iff]
      rintro ⟨name, asName⟩ hk hkey
      exact (hlisted hk).elim (hkeys name hkey).1 (hkeys name hkey).2
    refine ⟨hself, ?_⟩
    rw [replaceTables, hs]
    show Except.ok (quoteNames d (m.substitute s).1).text = _
    rw [hself]

/-- A mapping of a table that is not read leaves the statement as it is. -/
theorem substitute_of_unreported_other :
    let sql := "WITH recent AS (SELECT * FROM events) SELECT * FROM recent"
    ∃ m s, read [("orders", "raw.orders")] none = .ok m ∧ readOne sql (some .duckdb) = .ok s ∧
      tableNames sql (some .duckdb) = .ok ["events"] ∧
      (∀ key ∈ m.keys, key ∉ ["events"] ∧ key ∉ s.boundNames) ∧
      m.substitute s = (s, 0) ∧ replaceTables sql m .duckdb = .ok (quoteNames .duckdb s).text := by
  intro sql
  have hrun : ((read [("orders", "raw.orders")] none).toOption.bind fun m =>
      (readOne sql (some .duckdb)).toOption.map fun s => (m.keys, s.boundNames)) =
        some (["orders"], ["recent"]) := by decide +kernel
  have hnames : tableNames sql (some .duckdb) = .ok ["events"] := by
    rw [← toOption_eq_some]
    decide +kernel
  obtain ⟨m, hm, hrun⟩ := Option.bind_eq_some_iff.1 hrun
  obtain ⟨s, hs, hrun⟩ := Option.map_eq_some_iff.1 hrun
  obtain ⟨hkeys, hbound⟩ := Prod.mk.inj hrun
  have hs := toOption_eq_some.1 hs
  have hfree : ∀ key ∈ m.keys, key ∉ ["events"] ∧ key ∉ s.boundNames := by
    rw [hkeys, hbound]
    decide
  exact ⟨m, s, toOption_eq_some.1 hm, hs, hnames, hfree,
    (substitute_of_unreported hs hnames).2.2 hfree⟩

/-- A reference to a common table expression is replaced, although no table is reported. -/
theorem substitute_replaces_bound :
    let sql := "WITH t AS (SELECT 1 AS a) SELECT a FROM t"
    ∃ m s, read [("t", "x.y")] none = .ok m ∧ readOne sql (some .duckdb) = .ok s ∧
      tableNames sql (some .duckdb) = .ok [] ∧ (m.substitute s).2 = 1 ∧
      replaceTables sql m .duckdb =
        .ok "WITH \"t\" AS (SELECT 1 AS \"a\") SELECT \"a\" FROM \"x\".\"y\" AS \"t\"" ∧
      (quoteNames .duckdb s).text = "WITH \"t\" AS (SELECT 1 AS \"a\") SELECT \"a\" FROM \"t\"" := by
  intro sql
  have hrun : ((read [("t", "x.y")] none).toOption.bind fun m =>
      (readOne sql (some .duckdb)).toOption.map fun s =>
        ((m.substitute s).2, (replaceTables sql m .duckdb).toOption, (quoteNames .duckdb s).text)) =
      some (1, some "WITH \"t\" AS (SELECT 1 AS \"a\") SELECT \"a\" FROM \"x\".\"y\" AS \"t\"",
        "WITH \"t\" AS (SELECT 1 AS \"a\") SELECT \"a\" FROM \"t\"") := by decide +kernel
  have hnames : tableNames sql (some .duckdb) = .ok [] := by
    rw [← toOption_eq_some]
    decide +kernel
  obtain ⟨m, hm, hrun⟩ := Option.bind_eq_some_iff.1 hrun
  obtain ⟨s, hs, hrun⟩ := Option.map_eq_some_iff.1 hrun
  simp only [Prod.mk.injEq] at hrun
  exact ⟨m, s, toOption_eq_some.1 hm, toOption_eq_some.1 hs, hnames, hrun.1,
    toOption_eq_some.1 hrun.2.1, hrun.2.2⟩

end TableMapping

end DatasetSql
