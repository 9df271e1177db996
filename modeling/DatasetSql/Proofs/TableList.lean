import DatasetSql.Proofs.Reported

/-!
# The list of tables

A statement is read in an order that gets to each of its relations once. The tables of some statements
are those that their relations refer to, less all whose names a `WITH` clause binds anywhere in one of
these statements. A table is listed once for each alias, and each where the first reference to it
stands.
-/

namespace DatasetSql

namespace Statement

/-- A table as a relation refers to it: its name and the alias that it gets there. -/
abbrev TableKey := String × Option String

/-- A relation refers to a table by the last part of its name. A call refers to none. -/
inductive Relation.RefersTo : Relation → TableKey → Prop where
  | table (path : List Ident) (last : Ident) (detail : List Part) (asName : Option TableAlias)
      (tail : List Part) : RefersTo (.table (path ++ [last]) false detail asName tail)
        (last.value, asName.map fun a => a.name.value)

/-- A relation has a key exactly if it refers to a table by name and is no call. -/
theorem Relation.tableKey?_eq_some_iff {r : Relation} {k : TableKey} :
    r.tableKey? = some k ↔ r.RefersTo k := by
  constructor
  · intro h
    unfold tableKey? at h
    split at h
    next name detail asName tail =>
      obtain ⟨last, hlast, rfl⟩ := Option.map_eq_some_iff.1 h
      obtain ⟨path, rfl⟩ := List.getLast?_eq_some_iff.1 hlast
      exact .table path last detail asName tail
    next => cases h
  · rintro ⟨path, last, detail, asName, tail⟩
    rw [tableKey?, List.getLast?_concat, Option.map_some]

/-! ## Names that are bound -/

/-- A query binds the name that one of its common table expressions has. -/
inductive Query.Binds : Query → String → Prop where
  | cte (recursive : Bool) (before : List Cte) (asName : TableAlias) (materialized : String)
      (query : Query) (origin : Option Ident) (after : List Cte) (body : Body) (order : List Part)
      (limit offset : Option Expr) (unit : OffsetUnit) (detail : List Part)
      (fetch : Option FetchStyle) (fetched : Option Expr) (closing : String) :
      Binds (.mk recursive (before ++ .mk asName materialized query origin :: after) body order limit
        offset unit detail fetch fetched closing) asName.name.value

/-- A common table expression at any depth of a statement binds a name. -/
inductive Binds (s : Statement) (name : String) : Prop where
  | query {q : Query} (hq : Node.query q ∈ s.nodes) (h : q.Binds name) : Binds s name

/-- The names that are collected at a query are those that its common table expressions have. -/
theorem Query.mem_bound {q : Query} {name : String} : name ∈ q.bound ↔ q.Binds name := by
  constructor
  · obtain ⟨recursive, ctes, body, order, limit, offset, unit, detail, fetch, fetched, closing⟩ := q
    intro h
    obtain ⟨⟨asName, materialized, query, origin⟩, hcte, rfl⟩ := List.mem_map.1 h
    obtain ⟨before, after, rfl⟩ := List.append_of_mem hcte
    exact .cte recursive before asName materialized query origin after ..
  · rintro ⟨recursive, before, asName, materialized, query, origin, after⟩
    exact List.mem_map.2 ⟨_, List.mem_append_right before List.mem_cons_self, rfl⟩

/-- Collecting from a statement finds the names that are bound at any depth of it. -/
theorem mem_boundNames {s : Statement} {name : String} : name ∈ s.boundNames ↔ s.Binds name := by
  rw [boundNames, mem_collect]
  constructor
  · rintro ⟨n, hn, hname⟩
    -- only queries have names to collect
    cases n with
    | query q => exact .query hn (Query.mem_bound.1 hname)
    | ident i => exact nomatch hname
    | expr e => exact nomatch hname
    | relation r => exact nomatch hname
  · rintro ⟨hq, h⟩
    exact ⟨_, hq, Query.mem_bound.2 h⟩

/-! ## The order of reading -/

/-- The relations of a statement in the order of reading. -/
def visited (s : Statement) : List Relation := s.collect { relation := fun r => [r] }

/-- Reading gets to every relation once. -/
theorem visited_perm (s : Statement) : s.visited.Perm s.relations := by
  refine s.collect_perm.trans (List.Perm.of_eq ?_)
  rw [Collector.found, relations, List.filterMap_eq_flatMap_toList]
  congr 1
  funext n
  cases n <;> rfl

/-- The keys of a statement are those of its relations in the order of reading. -/
theorem tableKeys_eq_filterMap (s : Statement) :
    s.tableKeys = s.visited.filterMap Relation.tableKey? := by
  rw [List.filterMap_eq_flatMap_toList, visited, flatMap_collect, tableKeys]
  simp [Collector.bind]

/-- Some relations refer to one table before they refer to another. -/
def RefersFirst (rs : List Relation) (k k' : TableKey) : Prop :=
  ∃ before after, rs = before ++ after ∧ (∃ r ∈ before, r.RefersTo k) ∧
    ¬ ∃ r ∈ before, r.RefersTo k'

/-- The tables of some statements are listed: those that their relations refer to and that no common
table expression binds, each once, in the order of first reference. -/
structure Lists (ss : List Statement) (keys : List TableKey) : Prop where
  nodup : keys.Nodup
  mem : ∀ k, k ∈ keys ↔ (∃ s ∈ ss, ∃ r ∈ s.visited, r.RefersTo k) ∧ ∀ s ∈ ss, ¬ s.Binds k.1
  order : keys.Pairwise (RefersFirst (ss.flatMap visited))

section Listing

variable {ss : List Statement} {k k' : TableKey}

/-- The key of a relation, unless its name is bound. -/
def listedKey? (ss : List Statement) (r : Relation) : Option TableKey :=
  r.tableKey?.filter fun k => !(ss.flatMap boundNames).contains k.1

/-- The list has the tables in the order of their first references. -/
theorem tablesOf_eq (ss : List Statement) : tablesOf ss =
    (Text.firstOccurrences ((ss.flatMap visited).filterMap (listedKey? ss))).map Prod.fst := by
  have hkeys : ss.flatMap tableKeys = (ss.flatMap visited).filterMap Relation.tableKey? := by
    rw [List.filterMap_flatMap]
    exact List.flatMap_congr fun s _ => s.tableKeys_eq_filterMap
  rw [tablesOf, hkeys, List.filter_filterMap]
  rfl

/-- A reference is listed unless some statement binds its name. -/
theorem listedKey?_eq_some_iff {r : Relation} :
    listedKey? ss r = some k ↔ r.RefersTo k ∧ ∀ s ∈ ss, ¬ s.Binds k.1 := by
  rw [listedKey?, Option.filter_eq_some_iff, Relation.tableKey?_eq_some_iff]
  simp [mem_boundNames]

/-- The listed keys are those of references to names that no statement binds. -/
theorem mem_filterMap_listedKey? {rs : List Relation} :
    k ∈ rs.filterMap (listedKey? ss) ↔ (∃ r ∈ rs, r.RefersTo k) ∧ ∀ s ∈ ss, ¬ s.Binds k.1 := by
  simp only [List.mem_filterMap, listedKey?_eq_some_iff, ← and_assoc, exists_and_right]

/-- Names that are not bound are listed in the order of reference. -/
theorem precedes_listedKey?_iff {rs : List Relation} (hk : ∀ s ∈ ss, ¬ s.Binds k.1)
    (hk' : ∀ s ∈ ss, ¬ s.Binds k'.1) :
    Text.Precedes (rs.filterMap (listedKey? ss)) k k' ↔ RefersFirst rs k k' := by
  rw [Text.precedes_filterMap]
  simp only [mem_filterMap_listedKey?, and_iff_left hk, and_iff_left hk', RefersFirst]

/-- One list of keys has each of them once, in the order of the first references. -/
theorem lists_iff {keys : List TableKey} : Lists ss keys ↔
    keys = Text.firstOccurrences ((ss.flatMap visited).filterMap (listedKey? ss)) := by
  have hmem (k : TableKey) : k ∈ (ss.flatMap visited).filterMap (listedKey? ss) ↔
      (∃ s ∈ ss, ∃ r ∈ s.visited, r.RefersTo k) ∧ ∀ s ∈ ss, ¬ s.Binds k.1 := by
    rw [mem_filterMap_listedKey?]
    simp only [List.mem_flatMap]
    grind
  rw [Text.eq_firstOccurrences_iff]
  constructor
  · intro h
    refine ⟨h.nodup, fun k => (h.mem k).trans (hmem k).symm, ?_⟩
    refine h.order.imp_of_mem fun hk hk' horder => ?_
    exact (precedes_listedKey?_iff ((h.mem _).1 hk).2 ((h.mem _).1 hk').2).2 horder
  · rintro ⟨hnodup, hkeys, horder⟩
    have hkeys (k : TableKey) := (hkeys k).trans (hmem k)
    refine ⟨hnodup, hkeys, horder.imp_of_mem fun hk hk' horder => ?_⟩
    exact (precedes_listedKey?_iff ((hkeys _).1 hk).2 ((hkeys _).1 hk').2).1 horder

/-- The list of tables is the one that is described. -/
theorem tablesOf_eq_iff {names : List String} :
    tablesOf ss = names ↔ ∃ keys, Lists ss keys ∧ names = keys.map Prod.fst := by
  simp only [lists_iff, exists_eq_left]
  rw [tablesOf_eq, eq_comm]

end Listing

end Statement

open Statement in
/-- The tables of every text that can be read are listed: one name for each table and alias that is
referred to and that no common table expression of the text binds, in the order of first reference. In
this order each relation is got to once. -/
theorem tableNames_lists (sql : String) (d : Option Dialect) :
    ((∃ names, tableNames sql d = .ok names) ↔ ∃ ss, readAll sql d = .ok ss) ∧
    (∀ names, tableNames sql d = .ok names ↔
      ∃ ss keys, readAll sql d = .ok ss ∧ Lists ss keys ∧ names = keys.map Prod.fst) ∧
    ∀ s : Statement, s.visited.Perm s.relations := by
  have hnames (names : List String) : tableNames sql d = .ok names ↔
      ∃ ss, readAll sql d = .ok ss ∧ tablesOf ss = names := by
    rw [tableNames, bind_eq_ok]
    simp [pure, Except.pure]
  refine ⟨?_, fun names => ?_, visited_perm⟩
  · simp only [hnames]
    constructor
    · rintro ⟨_, ss, hread, _⟩
      exact ⟨ss, hread⟩
    · rintro ⟨ss, hread⟩
      exact ⟨_, ss, hread, rfl⟩
  · simp only [hnames, tablesOf_eq_iff, exists_and_left]

open Statement in
/-- A table under two aliases is listed twice, the name that a clause in a nested query binds and a call
not at all. -/
theorem tableNames_lists_aliases :
    let sql := "SELECT a.x FROM emp AS a JOIN emp AS b ON a.x = b.x, seq(1), o, " ++
      "(WITH o AS (SELECT 1) SELECT * FROM raw.logs) AS w"
    let keys := [("emp", some "a"), ("emp", some "b"), ("logs", none)]
    tableNames sql (some .postgres) = .ok ["emp", "emp", "logs"] ∧
      ∃ s, readAll sql (some .postgres) = .ok [s] ∧ Lists [s] keys ∧ s.Binds "o" ∧
        s.visited.Perm s.relations := by
  intro sql keys
  have hnames : tableNames sql (some .postgres) = .ok ["emp", "emp", "logs"] := by
    rw [← toOption_eq_some]
    decide +kernel
  have hrun : ((readAll sql (some .postgres)).toOption.map fun ss =>
      (ss.length, ss.flatMap boundNames,
        Text.firstOccurrences ((ss.flatMap visited).filterMap (listedKey? ss)))) =
          some (1, ["o"], keys) := by decide +kernel
  obtain ⟨ss, hread, hrun⟩ := Option.map_eq_some_iff.1 hrun
  simp only [Prod.mk.injEq] at hrun
  obtain ⟨hlength, hbound, hkeys⟩ := hrun
  obtain ⟨s, rfl⟩ := List.length_eq_one_iff.1 hlength
  rw [List.flatMap_singleton] at hbound
  obtain ⟨-, hlisted, hperm⟩ := tableNames_lists sql (some .postgres)
  -- the theorem gives the statements and a list; the run computes both
  obtain ⟨ss, keys', hread', hlists, -⟩ := (hlisted _).1 hnames
  obtain rfl : [s] = ss := Except.ok.inj ((toOption_eq_some.1 hread).symm.trans hread')
  obtain rfl : keys' = keys := (lists_iff.1 hlists).trans hkeys
  exact ⟨hnames, s, hread', hlists, mem_boundNames.1 (by simp [hbound]), hperm s⟩

end DatasetSql
