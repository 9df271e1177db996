import DatasetSql.Proofs.Scopes
import DatasetSql.Proofs.Substitution

/-!
# Captured tables

A table that comes into a statement with the target of a mapping stands where the reference stood
that was replaced, and so among the names that are bound there. The mapping does not look at these
names: if the table is read by a name that is bound there, and that its own query does not bind, it
has become a common table expression of the statement. Nothing else changes what a name means.
-/

namespace DatasetSql.Statement

variable {sc : Scoping} {f : Relation → Option Relation}

/-- The places that come to stand where a relation stood. -/
def Place.replaced (sc : Scoping) (f : Relation → Option Relation) (p : Place) : List Place :=
  match f p.relation with
  | some r => r.places sc (fun _ => false) p.bound
  | none => [⟨p.bound, p.relation.replaceRelations f⟩]

/-- A replacement of relations keeps the names of the common table expressions. -/
theorem cteNames_replaceInCtes (ctes : List Cte) :
    cteNames sc (replaceInCtes f ctes) = cteNames sc ctes := by
  induction ctes with
  | nil => rfl
  | cons cte ctes ih =>
    obtain ⟨a, materialized, q, origin⟩ := cte
    exact congrArg (List.cons (sc.name a.name)) ih

-- A relation that is replaced brings its own places in; from one that stays the search goes on.
mutual

/-- The places of a part after a replacement are those before it, each replaced where it stands. The
names that are bound there do not change. -/
theorem places_replacePart (bound : List String) (x : Part) :
    (x.replaceRelations f).places sc (fun _ => false) bound =
      (x.places sc (fun r => (f r).isSome) bound).flatMap (·.replaced sc f) := by
  cases x with
  | words s => rfl
  | literal v => rfl
  | expr e => exact places_replaceExpr bound e
  | query q => exact places_replaceQuery bound q
  | source s => exact places_replaceSource bound s
  | late ps => exact places_replacePhrase bound ps

theorem places_replacePhrase (bound : List String) (ps : List Part) :
    placesInPhrase sc (fun _ => false) bound (replaceInPhrase f ps) =
      (placesInPhrase sc (fun r => (f r).isSome) bound ps).flatMap (·.replaced sc f) := by
  cases ps with
  | nil => rfl
  | cons x ps =>
    rw [replaceInPhrase, placesInPhrase, places_replacePart bound x, places_replacePhrase bound ps,
      placesInPhrase, List.flatMap_append]

theorem places_replaceExpr (bound : List String) (e : Expr) :
    (e.replaceRelations f).places sc (fun _ => false) bound =
      (e.places sc (fun r => (f r).isSome) bound).flatMap (·.replaced sc f) := by
  cases e with
  | ident i => rfl
  | compound is => rfl
  | value v => rfl
  | call name tail => exact places_replacePhrase bound tail
  | binary l o r =>
    rw [Expr.replaceRelations, Expr.places, places_replaceExpr bound l, places_replaceExpr bound r,
      Expr.places, List.flatMap_append]
  | subquery q => exact places_replaceQuery bound q
  | form t ps => exact places_replacePhrase bound ps

theorem places_replaceExpr? (bound : List String) (e : Option Expr) :
    placesInExpr? sc (fun _ => false) bound (replaceInExpr? f e) =
      (placesInExpr? sc (fun r => (f r).isSome) bound e).flatMap (·.replaced sc f) := by
  cases e with
  | none => rfl
  | some e => exact places_replaceExpr bound e

/-- The places of a query after a replacement. The names that its common table expressions bind stay
the same, so each place sees what it saw before. -/
theorem places_replaceQuery (bound : List String) (q : Query) :
    (q.replaceRelations f).places sc (fun _ => false) bound =
      (q.places sc (fun r => (f r).isSome) bound).flatMap (·.replaced sc f) := by
  obtain ⟨recursive, ctes, body, order, limit, offset, unit, detail, fetch, fetched, closing⟩ := q
  simp only [Query.replaceRelations, Query.places, cteNames_replaceInCtes,
    places_replaceCtes recursive bound _ [] ctes, places_replaceBody _ body,
    places_replacePhrase _ order, places_replaceExpr? _ limit, places_replaceExpr? _ offset,
    places_replacePhrase _ detail, places_replaceExpr? _ fetched, List.flatMap_append]

/-- The places of the common table expressions after a replacement; what each of them sees depends
on the names alone. -/
theorem places_replaceCtes (recursive : Bool) (bound all before : List String) (ctes : List Cte) :
    placesInCtes sc (fun _ => false) recursive bound all before (replaceInCtes f ctes) =
      (placesInCtes sc (fun r => (f r).isSome) recursive bound all before ctes).flatMap
        (·.replaced sc f) := by
  cases ctes with
  | nil => rfl
  | cons cte ctes =>
    obtain ⟨a, materialized, q, origin⟩ := cte
    rw [replaceInCtes, placesInCtes, places_replaceQuery _ q,
      places_replaceCtes recursive bound all _ ctes, placesInCtes, List.flatMap_append]

theorem places_replaceBody (bound : List String) (b : Body) :
    (b.replaceRelations f).places sc (fun _ => false) bound =
      (b.places sc (fun r => (f r).isSome) bound).flatMap (·.replaced sc f) := by
  cases b with
  | select s => exact places_replaceSelect bound s
  | query q => exact places_replaceQuery bound q
  | setOperation l o r =>
    rw [Body.replaceRelations, Body.places, places_replaceBody bound l, places_replaceBody bound r,
      Body.places, List.flatMap_append]
  | phrase ps => exact places_replacePhrase bound ps

theorem places_replaceSelect (bound : List String) (s : Select) :
    (s.replaceRelations f).places sc (fun _ => false) bound =
      (s.places sc (fun r => (f r).isSome) bound).flatMap (·.replaced sc f) := by
  obtain ⟨opening, items, target, sources, clauses⟩ := s
  simp only [Select.replaceRelations, Select.places, places_replacePhrase bound opening,
    places_replaceItems bound items, places_replaceSources bound sources,
    places_replacePhrase bound clauses, List.flatMap_append]

theorem places_replaceItems (bound : List String) (items : List (Expr × Option Ident)) :
    placesInItems sc (fun _ => false) bound (replaceInItems f items) =
      (placesInItems sc (fun r => (f r).isSome) bound items).flatMap (·.replaced sc f) := by
  cases items with
  | nil => rfl
  | cons item items =>
    rw [replaceInItems, placesInItems, places_replaceExpr bound item.1,
      places_replaceItems bound items, placesInItems, List.flatMap_append]

theorem places_replaceSources (bound : List String) (ss : List Source) :
    placesInSources sc (fun _ => false) bound (replaceInSources f ss) =
      (placesInSources sc (fun r => (f r).isSome) bound ss).flatMap (·.replaced sc f) := by
  cases ss with
  | nil => rfl
  | cons s ss =>
    rw [replaceInSources, placesInSources, places_replaceSource bound s,
      places_replaceSources bound ss, placesInSources, List.flatMap_append]

theorem places_replaceSource (bound : List String) (s : Source) :
    (s.replaceRelations f).places sc (fun _ => false) bound =
      (s.places sc (fun r => (f r).isSome) bound).flatMap (·.replaced sc f) := by
  obtain ⟨r, js⟩ := s
  rw [Source.replaceRelations, Source.places, places_replaceRelation bound r,
    places_replaceJoins bound js, Source.places, List.flatMap_append]

/-- The places of a relation after a replacement: the relation itself is replaced, or what stands
inside of it. -/
theorem places_replaceRelation (bound : List String) (r : Relation) :
    (r.replaceRelations f).places sc (fun _ => false) bound =
      (r.places sc (fun r => (f r).isSome) bound).flatMap (·.replaced sc f) := by
  cases r with
  | table name isCall detail a tail =>
    cases hf : f (.table name isCall detail a tail) with
    -- what stands in the place of a relation is not looked into again
    | some r' => simp [Relation.replaceRelations, Relation.places, Place.replaced, hf]
    | none =>
      simp [Relation.replaceRelations, Relation.places, Place.replaced, hf,
        places_replacePhrase bound detail, places_replacePhrase bound tail]
  | derived lateral q a =>
    cases hf : f (.derived lateral q a) with
    | some r' => simp [Relation.replaceRelations, Relation.places, Place.replaced, hf]
    | none =>
      simp [Relation.replaceRelations, Relation.places, Place.replaced, hf,
        places_replaceQuery bound q]
  | nested s a =>
    cases hf : f (.nested s a) with
    | some r' => simp [Relation.replaceRelations, Relation.places, Place.replaced, hf]
    | none =>
      simp [Relation.replaceRelations, Relation.places, Place.replaced, hf,
        places_replaceSource bound s]
  | form ps a tail =>
    cases hf : f (.form ps a tail) with
    | some r' => simp [Relation.replaceRelations, Relation.places, Place.replaced, hf]
    | none =>
      simp [Relation.replaceRelations, Relation.places, Place.replaced, hf,
        places_replacePhrase bound ps]

theorem places_replaceJoins (bound : List String) (js : List Join) :
    placesInJoins sc (fun _ => false) bound (replaceInJoins f js) =
      (placesInJoins sc (fun r => (f r).isSome) bound js).flatMap (·.replaced sc f) := by
  cases js with
  | nil => rfl
  | cons j js =>
    obtain ⟨words, r, condition⟩ := j
    rw [replaceInJoins, placesInJoins, places_replaceRelation bound r,
      places_replacePhrase bound condition, places_replaceJoins bound js, placesInJoins,
      List.flatMap_append, List.flatMap_append]

end

/-! ## What is read after a replacement -/

/-- A relation that is not replaced itself is read as before, whatever is replaced inside of it. -/
theorem Place.reading?_replaceRelations {p : Place} (h : f p.relation = none) :
    Place.reading? sc ⟨p.bound, p.relation.replaceRelations f⟩ = p.reading? sc := by
  obtain ⟨bound, r⟩ := p
  have h : f r = none := h
  cases r with
  | table name isCall detail a tail =>
    simp only [Relation.replaceRelations, h, Option.getD_none]
    match name, isCall with
    | [], true | [], false | [_], true | [_], false | _ :: _ :: _, true | _ :: _ :: _, false => rfl
  | derived lateral q a => simp only [Relation.replaceRelations, h, Option.getD_none, Place.reading?]
  | nested s a => simp only [Relation.replaceRelations, h, Option.getD_none, Place.reading?]
  | form ps a tail => simp only [Relation.replaceRelations, h, Option.getD_none, Place.reading?]

/-- The places of a statement after a replacement. -/
theorem places_replaceRelations (s : Statement) :
    (s.replaceRelations f).places sc (fun _ => false) =
      (s.places sc fun r => (f r).isSome).flatMap (·.replaced sc f) := by
  cases s with
  | query q => exact places_replaceQuery [] q
  | command ps => exact places_replacePhrase [] ps

/-- What is read after a replacement: what is read where nothing is replaced, and what is read in the
relations that are put in, each among the names that are bound there. -/
theorem readings_replaceRelations (s : Statement) :
    (s.replaceRelations f).readings sc =
      (s.places sc fun r => (f r).isSome).flatMap fun p =>
        match f p.relation with
        | some r => (r.readings sc).map (·.within p.bound)
        | none => (p.reading? sc).toList := by
  rw [Statement.readings, places_replaceRelations s, List.filterMap_flatMap]
  congr 1
  funext p
  unfold Place.replaced
  cases h : f p.relation with
  | some r => exact Relation.filterMap_places p.bound r
  | none =>
    rw [← Place.reading?_replaceRelations h]
    cases hx : Place.reading? sc ⟨p.bound, p.relation.replaceRelations f⟩ <;> simp [hx]

/-- A reading inside of some outer names is bound if it was bound before or has one of these
names. -/
theorem Reading.isBound_within {outer : List String} {x : Reading} :
    (x.within outer).IsBound ↔ x.IsBound ∨ x.name ∈ outer :=
  List.mem_append

end DatasetSql.Statement

namespace DatasetSql.TableMapping

open Statement

variable {m : TableMapping} {sc : Scoping} {s : Statement}

/-- The places of a statement at which a mapping decides. -/
def sites (m : TableMapping) (sc : Scoping) (s : Statement) : List Place :=
  s.places sc fun r => (m.replacement? r).isSome

/-- A table comes into a statement with the target that replaces what stands at a place. -/
def Inserts (m : TableMapping) (sc : Scoping) (s : Statement) (p : Place) (y : Reading) : Prop :=
  p ∈ m.sites sc s ∧ ∃ r, m.Replaces p.relation r ∧ y ∈ r.readings sc

/-- No table that comes in with a target turns into a common table expression of the statement. -/
def CaptureFree (m : TableMapping) (sc : Scoping) (s : Statement) : Prop :=
  ∀ p y, m.Inserts sc s p y → (y.within p.bound).IsBound → y.IsBound

/-- The names of the tables that do. -/
def captured (m : TableMapping) (sc : Scoping) (s : Statement) : List String :=
  (m.sites sc s).flatMap fun p =>
    match m.replacement? p.relation with
    | some r =>
      ((r.readings sc).filter fun y => decide (¬ y.IsBound ∧ y.name ∈ p.bound)).map (·.name)
    | none => []

/-- A table is captured exactly if its name is bound at the place and not by its own query. -/
theorem captureFree_iff :
    m.CaptureFree sc s ↔ ∀ p y, m.Inserts sc s p y → ¬ y.IsBound → y.name ∉ p.bound := by
  refine forall_congr' fun p => forall_congr' fun y => imp_congr_right fun _ => ?_
  rw [Reading.isBound_within]
  constructor
  · exact fun h hfree hmem => hfree (h (.inr hmem))
  · exact fun h hbound => Classical.byContradiction fun hfree => hbound.elim hfree (h hfree)

/-- Nothing is captured exactly if no free reading of a target meets a name that is bound where the
target is put. -/
theorem captured_eq_nil_iff (hm : Accepted m.entries) :
    m.captured sc s = [] ↔ ∀ p y, m.Inserts sc s p y → ¬ y.IsBound → y.name ∉ p.bound := by
  simp only [captured, List.flatMap_eq_nil_iff]
  constructor
  · rintro h p y ⟨hp, r, hr, hy⟩ hfree hmem
    have hnil := h p hp
    rw [(replacement?_eq_some_iff hm).2 hr] at hnil
    simp only [List.map_eq_nil_iff, List.filter_eq_nil_iff, decide_eq_true_eq] at hnil
    exact hnil y hy ⟨hfree, hmem⟩
  · intro h p hp
    cases hr : m.replacement? p.relation with
    | none => rfl
    | some r =>
      simp only [List.map_eq_nil_iff, List.filter_eq_nil_iff, decide_eq_true_eq]
      rintro y hy ⟨hfree, hmem⟩
      exact h p y ⟨hp, r, (replacement?_eq_some_iff hm).1 hr, hy⟩ hfree hmem

/-- What is read in a statement after its tables are replaced: what is read where no key stands, and
what comes in. -/
theorem mem_readings_substitute (hm : Accepted m.entries) {x : Reading} :
    x ∈ (m.substitute s).1.readings sc ↔
      (∃ p ∈ m.sites sc s, (∀ r, ¬ m.Replaces p.relation r) ∧ p.reading? sc = some x) ∨
        ∃ p y, m.Inserts sc s p y ∧ x = y.within p.bound := by
  rw [substitute_eq, readings_replaceRelations, List.mem_flatMap]
  constructor
  · rintro ⟨p, hp, hx⟩
    cases hr : m.replacement? p.relation with
    | none =>
      rw [hr] at hx
      refine .inl ⟨p, hp, fun r hreplaces => ?_, Option.mem_toList.1 hx⟩
      rw [(replacement?_eq_some_iff hm).2 hreplaces] at hr
      exact nomatch hr
    | some r =>
      rw [hr] at hx
      obtain ⟨y, hy, rfl⟩ := List.mem_map.1 hx
      exact .inr ⟨p, y, ⟨hp, r, (replacement?_eq_some_iff hm).1 hr, hy⟩, rfl⟩
  · rintro (⟨p, hp, hkept, hx⟩ | ⟨p, y, ⟨hp, r, hr, hy⟩, rfl⟩)
    · have hr : m.replacement? p.relation = none := by
        cases hr : m.replacement? p.relation with
        | none => rfl
        | some r => exact absurd ((replacement?_eq_some_iff hm).1 hr) (hkept r)
      -- a site that is kept is read as it was
      refine ⟨p, hp, ?_⟩
      rw [hr]
      exact Option.mem_toList.2 hx
    · refine ⟨p, hp, ?_⟩
      rw [(replacement?_eq_some_iff hm).2 hr]
      exact List.mem_map.2 ⟨y, hy, rfl⟩

/-- For every accepted mapping, statement, dialect and rule for the elements of a `WITH` clause: what
is read in the quoted result is what was read where no key stands, among the same names, and what the
targets read, among the names that are bound at the places where they come in. So a table that a
target does not bind itself turns into a common table expression of the statement exactly if one of
that name is in scope at that place, and substitution is free of captures exactly if there is none. -/
theorem substitute_captures_iff {entries : List (String × String)} {source : Option Dialect}
    (h : read entries source = .ok m) (d : Dialect)
    (visible : Bool → List String → List String → List String) (s : Statement) :
    let sc : Scoping := ⟨Ident.denoted d, visible⟩
    (∀ x, x ∈ (quoteNames d (m.substitute s).1).readings sc ↔
      (∃ p ∈ m.sites sc s, (∀ r, ¬ m.Replaces p.relation r) ∧ p.reading? sc = some x) ∨
        ∃ p y, m.Inserts sc s p y ∧ x = y.within p.bound) ∧
    (∀ p y, m.Inserts sc s p y → ¬ y.IsBound →
      ((y.within p.bound).IsBound ↔ y.name ∈ p.bound)) ∧
    (m.CaptureFree sc s ↔ ∀ p y, m.Inserts sc s p y → ¬ y.IsBound → y.name ∉ p.bound) := by
  intro sc
  refine ⟨fun x => ?_, fun p y _ hfree => ?_, captureFree_iff⟩
  · rw [readings_quoteNames]
    exact mem_readings_substitute (accepted_of_read h)
  · rw [Reading.isBound_within, or_iff_right hfree]

/-- Two references inside of and behind a `WITH` clause are replaced by a query with a clause of its
own. -/
theorem substitute_captures_iff_nested :
    let sql := "WITH u AS (SELECT 1 FROM t) SELECT 1 FROM u, t"
    ∃ m s, read [("t", "WITH v AS (SELECT 1) SELECT 1 FROM v, r")] none = .ok m ∧
      readOne sql (some .duckdb) = .ok s ∧
      (quoteNames .duckdb (m.substitute s).1).readings (.standard .duckdb) =
        [⟨"v", ["v"]⟩, ⟨"r", ["v"]⟩, ⟨"u", ["u"]⟩, ⟨"v", ["v", "u"]⟩, ⟨"r", ["v", "u"]⟩] ∧
      m.CaptureFree (.standard .duckdb) s := by
  intro sql
  have hrun :
      ((read [("t", "WITH v AS (SELECT 1) SELECT 1 FROM v, r")] none).toOption.bind
        fun m => (readOne sql (some .duckdb)).toOption.map fun s =>
          ((quoteNames .duckdb (m.substitute s).1).readings (.standard .duckdb),
            m.captured (.standard .duckdb) s)) =
        some ([⟨"v", ["v"]⟩, ⟨"r", ["v"]⟩, ⟨"u", ["u"]⟩, ⟨"v", ["v", "u"]⟩, ⟨"r", ["v", "u"]⟩], []) := by
    decide +kernel
  obtain ⟨m, hm, hrun⟩ := Option.bind_eq_some_iff.1 hrun
  obtain ⟨s, hs, hrun⟩ := Option.map_eq_some_iff.1 hrun
  obtain ⟨hreadings, hcaptured⟩ := Prod.mk.inj hrun
  have hm := toOption_eq_some.1 hm
  -- the run says that nothing is captured; the theorem makes the statement free of it
  refine ⟨m, s, hm, toOption_eq_some.1 hs, hreadings, ?_⟩
  exact (substitute_captures_iff hm .duckdb _ s).2.2.2
    ((captured_eq_nil_iff (accepted_of_read hm)).1 hcaptured)

/-- A key that stands for a table is replaced where a common table expression has the name of that
table, so the statement reads its own expression instead. -/
theorem substitute_captures_table :
    let sql := "WITH u AS (SELECT 1 AS a) SELECT a FROM t"
    ∃ m s, read [("t", "u")] none = .ok m ∧ readOne sql (some .duckdb) = .ok s ∧
      ¬ m.CaptureFree (.standard .duckdb) s ∧
      (quoteNames .duckdb (m.substitute s).1).readings (.standard .duckdb) = [⟨"u", ["u"]⟩] ∧
      replaceTables sql m .duckdb =
        .ok "WITH \"u\" AS (SELECT 1 AS \"a\") SELECT \"a\" FROM \"u\" AS \"t\"" := by
  intro sql
  have hrun : ((read [("t", "u")] none).toOption.bind fun m =>
      (readOne sql (some .duckdb)).toOption.map fun s =>
        ((quoteNames .duckdb (m.substitute s).1).readings (.standard .duckdb),
          m.captured (.standard .duckdb) s, (replaceTables sql m .duckdb).toOption)) =
      some ([⟨"u", ["u"]⟩], ["u"],
        some "WITH \"u\" AS (SELECT 1 AS \"a\") SELECT \"a\" FROM \"u\" AS \"t\"") := by decide +kernel
  obtain ⟨m, hm, hrun⟩ := Option.bind_eq_some_iff.1 hrun
  obtain ⟨s, hs, hrun⟩ := Option.map_eq_some_iff.1 hrun
  simp only [Prod.mk.injEq] at hrun
  obtain ⟨hreadings, hcaptured, htext⟩ := hrun
  have hm := toOption_eq_some.1 hm
  refine ⟨m, s, hm, toOption_eq_some.1 hs, fun hfree => ?_, hreadings, toOption_eq_some.1 htext⟩
  -- the run has the captured name
  rw [captureFree_iff, ← captured_eq_nil_iff (accepted_of_read hm), hcaptured] at hfree
  exact nomatch hfree

end DatasetSql.TableMapping
