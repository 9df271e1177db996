import DatasetSql.Statement.Pass
import DatasetSql.Statement.Quoting
import Mathlib.Logic.Basic
import Mathlib.Tactic.SplitIfs

/-!
# Scopes of common table expressions

The name of a common table expression is bound in the body of its query and in what follows the
body, at any depth, and in some of the elements of its `WITH` clause. A relation stands at a place,
where some names are bound; a table that is read by a name of one part means a common table
expression if its name is bound there, and a table of the database otherwise.

Which elements of a `WITH` clause see each other differs between databases, so that is a parameter.
-/

namespace DatasetSql.Statement

/-- How names are bound. -/
structure Scoping where
  /-- The name that an identifier denotes. -/
  name : Ident → String
  /-- What an element of a `WITH` clause sees of its clause: given whether the clause is recursive,
  the names before the element and all names of the clause. -/
  visible : Bool → List String → List String → List String

/-- The scopes of a dialect under the rule of the standard: an element sees those before it, and the
whole clause if it is recursive. -/
def Scoping.standard (d : Dialect) : Scoping where
  name := Ident.denoted d
  visible recursive before all := if recursive then all else before

/-- A relation with the names that are bound where it stands, innermost first. -/
structure Place where
  bound : List String
  relation : Relation

/-- A table that is read by a name of one part, with the names that are bound there. -/
structure Reading where
  name : String
  bound : List String
deriving DecidableEq, Repr

/-- Whether what is read is a common table expression. -/
def Reading.IsBound (x : Reading) : Prop := x.name ∈ x.bound

instance (x : Reading) : Decidable x.IsBound := inferInstanceAs (Decidable (x.name ∈ x.bound))

/-- A place inside of a statement that binds some names around it. -/
def Place.within (outer : List String) (p : Place) : Place := { p with bound := p.bound ++ outer }

/-- What is read inside of a statement that binds some names around it. -/
def Reading.within (outer : List String) (x : Reading) : Reading :=
  { x with bound := x.bound ++ outer }

/-- The table that is read at a place, if it is no call and its name has one part. -/
def Place.reading? (sc : Scoping) (p : Place) : Option Reading :=
  match p.relation with
  | .table [i] false _ _ _ => some ⟨sc.name i, p.bound⟩
  | _ => none

/-- The names that common table expressions have. -/
def cteNames (sc : Scoping) : List Cte → List String
  | [] => []
  | .mk asName _ _ _ :: ctes => sc.name asName.name :: cteNames sc ctes

section

variable (sc : Scoping) (stop : Relation → Bool)

mutual

/-- The places in a part of a phrase, but none inside of a relation that `stop` accepts. -/
def Part.places (bound : List String) : Part → List Place
  | .words _ | .literal _ => []
  | .expr e => e.places bound
  | .query q => q.places bound
  | .source s => s.places bound
  | .late parts => placesInPhrase bound parts

/-- The places in a phrase. -/
def placesInPhrase (bound : List String) : List Part → List Place
  | [] => []
  | p :: ps => p.places bound ++ placesInPhrase bound ps

/-- The places in an expression. -/
def Expr.places (bound : List String) : Expr → List Place
  | .ident _ | .compound _ | .value _ => []
  | .call _ tail => placesInPhrase bound tail
  | .binary l _ r => l.places bound ++ r.places bound
  | .subquery q => q.places bound
  | .form _ parts => placesInPhrase bound parts

/-- The places in an expression that may be left out. -/
def placesInExpr? (bound : List String) : Option Expr → List Place
  | none => []
  | some e => e.places bound

/-- The places in a query. All but its `WITH` clause sees every name of that clause. -/
def Query.places (bound : List String) : Query → List Place
  | .mk recursive ctes body order limit offset _ detail _ fetched _ =>
    let inner := cteNames sc ctes ++ bound
    placesInCtes recursive bound (cteNames sc ctes) [] ctes ++ body.places inner ++
      placesInPhrase inner order ++ placesInExpr? inner limit ++ placesInExpr? inner offset ++
      placesInPhrase inner detail ++ placesInExpr? inner fetched

/-- The places in common table expressions, given the names of the clause and those before. -/
def placesInCtes (recursive : Bool) (bound all before : List String) : List Cte → List Place
  | [] => []
  | .mk asName _ q _ :: ctes =>
    q.places (sc.visible recursive before all ++ bound) ++
      placesInCtes recursive bound all (before ++ [sc.name asName.name]) ctes

/-- The places in the body of a query. -/
def Body.places (bound : List String) : Body → List Place
  | .select s => s.places bound
  | .query q => q.places bound
  | .setOperation l _ r => l.places bound ++ r.places bound
  | .phrase parts => placesInPhrase bound parts

/-- The places in a `SELECT`. -/
def Select.places (bound : List String) : Select → List Place
  | .mk opening items _ sources clauses =>
    placesInPhrase bound opening ++ placesInItems bound items ++ placesInSources bound sources ++
      placesInPhrase bound clauses

/-- The places in the items of a select list. -/
def placesInItems (bound : List String) : List (Expr × Option Ident) → List Place
  | [] => []
  | (e, _) :: items => e.places bound ++ placesInItems bound items

/-- The places in the sources of a `FROM` clause. -/
def placesInSources (bound : List String) : List Source → List Place
  | [] => []
  | s :: ss => s.places bound ++ placesInSources bound ss

/-- The places in a source. -/
def Source.places (bound : List String) : Source → List Place
  | .mk relation joins => relation.places bound ++ placesInJoins bound joins

/-- The place of a relation, and those inside of it. -/
def Relation.places (bound : List String) : Relation → List Place
  | r@(.table _ _ detail _ tail) =>
    ⟨bound, r⟩ :: if stop r then [] else placesInPhrase bound detail ++ placesInPhrase bound tail
  | r@(.derived _ q _) => ⟨bound, r⟩ :: if stop r then [] else q.places bound
  | r@(.nested source _) => ⟨bound, r⟩ :: if stop r then [] else source.places bound
  | r@(.form parts _ _) => ⟨bound, r⟩ :: if stop r then [] else placesInPhrase bound parts

/-- The places in joins. -/
def placesInJoins (bound : List String) : List Join → List Place
  | [] => []
  | .mk _ relation condition :: js =>
    relation.places bound ++ placesInPhrase bound condition ++ placesInJoins bound js

end

end

/-- What is read in a relation by itself. -/
def Relation.readings (sc : Scoping) (r : Relation) : List Reading :=
  (r.places sc (fun _ => false) []).filterMap (·.reading? sc)

end DatasetSql.Statement

namespace DatasetSql

open Statement

/-- The places in a statement, but none inside of a relation that `stop` accepts. -/
def Statement.places (sc : Scoping) (stop : Relation → Bool) : Statement → List Place
  | .query q => q.places sc stop []
  | .command parts => placesInPhrase sc stop [] parts

/-- What is read in a statement. -/
def Statement.readings (sc : Scoping) (s : Statement) : List Reading :=
  (s.places sc fun _ => false).filterMap (·.reading? sc)

end DatasetSql

namespace DatasetSql.Statement

/-! ## Names bound around -/

section Within

variable {sc : Scoping} {stop : Relation → Bool}

/-- What is bound around a place is added to its reading. -/
theorem Place.reading?_within (outer : List String) (p : Place) :
    (p.within outer).reading? sc = (p.reading? sc).map (·.within outer) := by
  obtain ⟨bound, r⟩ := p
  simp only [Place.reading?, Place.within]
  split
  · rfl
  · rfl

-- Names that are bound around a tree come behind those that the tree binds itself.
mutual

/-- Names that are bound around a part are bound at each of its places. They come last, behind those
that it binds itself. -/
theorem Part.places_within (bound outer : List String) (x : Part) :
    x.places sc stop (bound ++ outer) = (x.places sc stop bound).map (·.within outer) := by
  cases x with
  | words s => rfl
  | literal v => rfl
  | expr e => exact Expr.places_within bound outer e
  | query q => exact Query.places_within bound outer q
  | source s => exact Source.places_within bound outer s
  | late ps => exact placesInPhrase_within bound outer ps

theorem placesInPhrase_within (bound outer : List String) (ps : List Part) :
    placesInPhrase sc stop (bound ++ outer) ps =
      (placesInPhrase sc stop bound ps).map (·.within outer) := by
  cases ps with
  | nil => rfl
  | cons x ps =>
    simp only [placesInPhrase, List.map_append, Part.places_within bound outer x,
      placesInPhrase_within bound outer ps]

theorem Expr.places_within (bound outer : List String) (e : Expr) :
    e.places sc stop (bound ++ outer) = (e.places sc stop bound).map (·.within outer) := by
  cases e with
  | ident i => rfl
  | compound is => rfl
  | value v => rfl
  | call name tail => exact placesInPhrase_within bound outer tail
  | binary l o r =>
    simp only [Expr.places, List.map_append, Expr.places_within bound outer l,
      Expr.places_within bound outer r]
  | subquery q => exact Query.places_within bound outer q
  | form t ps => exact placesInPhrase_within bound outer ps

theorem placesInExpr?_within (bound outer : List String) (e : Option Expr) :
    placesInExpr? sc stop (bound ++ outer) e =
      (placesInExpr? sc stop bound e).map (·.within outer) := by
  cases e with
  | none => rfl
  | some e => exact Expr.places_within bound outer e

/-- Names that are bound around a query are bound at each of its places, behind its own common table
expressions. -/
theorem Query.places_within (bound outer : List String) (q : Query) :
    q.places sc stop (bound ++ outer) = (q.places sc stop bound).map (·.within outer) := by
  obtain ⟨recursive, ctes, body, order, limit, offset, unit, detail, fetch, fetched, closing⟩ := q
  simp only [Query.places, List.map_append, ← List.append_assoc (cteNames sc ctes),
    placesInCtes_within recursive bound outer _ [] ctes, Body.places_within _ outer body,
    placesInPhrase_within _ outer order, placesInExpr?_within _ outer limit,
    placesInExpr?_within _ outer offset, placesInPhrase_within _ outer detail,
    placesInExpr?_within _ outer fetched]

theorem placesInCtes_within (recursive : Bool) (bound outer all before : List String)
    (ctes : List Cte) :
    placesInCtes sc stop recursive (bound ++ outer) all before ctes =
      (placesInCtes sc stop recursive bound all before ctes).map (·.within outer) := by
  cases ctes with
  | nil => rfl
  | cons cte ctes =>
    obtain ⟨a, materialized, q, origin⟩ := cte
    simp only [placesInCtes, List.map_append, ← List.append_assoc (sc.visible _ _ _),
      Query.places_within _ outer q, placesInCtes_within recursive bound outer all _ ctes]

theorem Body.places_within (bound outer : List String) (b : Body) :
    b.places sc stop (bound ++ outer) = (b.places sc stop bound).map (·.within outer) := by
  cases b with
  | select s => exact Select.places_within bound outer s
  | query q => exact Query.places_within bound outer q
  | setOperation l o r =>
    simp only [Body.places, List.map_append, Body.places_within bound outer l,
      Body.places_within bound outer r]
  | phrase ps => exact placesInPhrase_within bound outer ps

theorem Select.places_within (bound outer : List String) (s : Select) :
    s.places sc stop (bound ++ outer) = (s.places sc stop bound).map (·.within outer) := by
  obtain ⟨opening, items, target, sources, clauses⟩ := s
  simp only [Select.places, List.map_append, placesInPhrase_within bound outer opening,
    placesInItems_within bound outer items, placesInSources_within bound outer sources,
    placesInPhrase_within bound outer clauses]

theorem placesInItems_within (bound outer : List String) (items : List (Expr × Option Ident)) :
    placesInItems sc stop (bound ++ outer) items =
      (placesInItems sc stop bound items).map (·.within outer) := by
  cases items with
  | nil => rfl
  | cons item items =>
    simp only [placesInItems, List.map_append, Expr.places_within bound outer item.1,
      placesInItems_within bound outer items]

theorem placesInSources_within (bound outer : List String) (ss : List Source) :
    placesInSources sc stop (bound ++ outer) ss =
      (placesInSources sc stop bound ss).map (·.within outer) := by
  cases ss with
  | nil => rfl
  | cons s ss =>
    simp only [placesInSources, List.map_append, Source.places_within bound outer s,
      placesInSources_within bound outer ss]

theorem Source.places_within (bound outer : List String) (s : Source) :
    s.places sc stop (bound ++ outer) = (s.places sc stop bound).map (·.within outer) := by
  obtain ⟨r, js⟩ := s
  simp only [Source.places, List.map_append, Relation.places_within bound outer r,
    placesInJoins_within bound outer js]

/-- Names that are bound around a relation are bound at each of its places. -/
theorem Relation.places_within (bound outer : List String) (r : Relation) :
    r.places sc stop (bound ++ outer) = (r.places sc stop bound).map (·.within outer) := by
  cases r with
  | table name isCall detail a tail =>
    simp only [Relation.places, placesInPhrase_within bound outer detail,
      placesInPhrase_within bound outer tail]
    -- the names bound outside are added behind, whether or not the relation is entered
    split_ifs <;> simp [Place.within]
  | derived lateral q a =>
    simp only [Relation.places, Query.places_within bound outer q]
    split_ifs <;> simp [Place.within]
  | nested s a =>
    simp only [Relation.places, Source.places_within bound outer s]
    split_ifs <;> simp [Place.within]
  | form ps a tail =>
    simp only [Relation.places, placesInPhrase_within bound outer ps]
    split_ifs <;> simp [Place.within]

theorem placesInJoins_within (bound outer : List String) (js : List Join) :
    placesInJoins sc stop (bound ++ outer) js =
      (placesInJoins sc stop bound js).map (·.within outer) := by
  cases js with
  | nil => rfl
  | cons j js =>
    obtain ⟨words, r, condition⟩ := j
    simp only [placesInJoins, List.map_append, Relation.places_within bound outer r,
      placesInPhrase_within bound outer condition, placesInJoins_within bound outer js]

end

/-- What a relation reads where some names are bound. -/
theorem Relation.filterMap_places (bound : List String) (r : Relation) :
    (r.places sc (fun _ => false) bound).filterMap (·.reading? sc) =
      (r.readings sc).map (·.within bound) := by
  have hplaces : r.places sc (fun _ => false) ([] ++ bound) = _ := Relation.places_within [] bound r
  rw [List.nil_append] at hplaces
  rw [hplaces, Relation.readings, List.filterMap_map, List.map_filterMap]
  congr 1
  exact funext fun p => Place.reading?_within bound p

end Within

/-! ## Identifiers written in another way -/

section Naming

variable {sc : Scoping} {g : Ident → Ident}

/-- The pass that changes identifiers only. -/
def identPass (g : Ident → Ident) : Pass Id := { ident := g }

/-- A place with the identifiers of its relation changed. -/
def Place.named (g : Ident → Ident) (p : Place) : Place :=
  { p with relation := p.relation.passM (identPass g) }

/-- A place is read alike if the names in it mean the same. -/
theorem Place.reading?_named (hg : ∀ i, sc.name (g i) = sc.name i) (p : Place) :
    (p.named g).reading? sc = p.reading? sc := by
  obtain ⟨bound, r⟩ := p
  cases r with
  | table name isCall detail a tail =>
    -- only a name of one part can be bound
    match name, isCall with
    | [], true => rfl
    | [], false => rfl
    | [i], true => rfl
    | [i], false => exact congrArg (fun n => some (Reading.mk n bound)) (hg i)
    | _ :: _ :: _, true => rfl
    | _ :: _ :: _, false => rfl
  | derived lateral q a => rfl
  | nested s a => rfl
  | form ps a tail => rfl

/-- Common table expressions whose names mean the same bind the same. -/
theorem cteNames_pass (hg : ∀ i, sc.name (g i) = sc.name i) (ctes : List Cte) :
    cteNames sc (passCtes (identPass g) ctes) = cteNames sc ctes := by
  induction ctes with
  | nil => rfl
  | cons cte ctes ih =>
    obtain ⟨a, materialized, q, origin⟩ := cte
    exact congrArg₂ List.cons (hg a.name) ih

-- What is bound depends on what names denote only, so every place stays where it is.
mutual

/-- A pass that keeps what names mean keeps the places of a part and what is bound at them. -/
theorem Part.places_pass (hg : ∀ i, sc.name (g i) = sc.name i) (bound : List String) (x : Part) :
    Part.places sc (fun _ => false) bound (x.passM (identPass g)) =
      (x.places sc (fun _ => false) bound).map (·.named g) := by
  cases x with
  | words s => rfl
  | literal v => rfl
  | expr e => exact Expr.places_pass hg bound e
  | query q => exact Query.places_pass hg bound q
  | source s => exact Source.places_pass hg bound s
  | late ps => exact placesInPhrase_pass hg bound ps

theorem placesInPhrase_pass (hg : ∀ i, sc.name (g i) = sc.name i) (bound : List String)
    (ps : List Part) :
    placesInPhrase sc (fun _ => false) bound (passPhrase (identPass g) ps) =
      (placesInPhrase sc (fun _ => false) bound ps).map (·.named g) := by
  cases ps with
  | nil => rfl
  | cons x ps =>
    rw [placesInPhrase, List.map_append, ← Part.places_pass hg bound x,
      ← placesInPhrase_pass hg bound ps]
    rfl

theorem Expr.places_pass (hg : ∀ i, sc.name (g i) = sc.name i) (bound : List String) (e : Expr) :
    Expr.places sc (fun _ => false) bound (e.passM (identPass g)) =
      (e.places sc (fun _ => false) bound).map (·.named g) := by
  cases e with
  | ident i => rfl
  | compound is => rfl
  | value v => rfl
  | call name tail => exact placesInPhrase_pass hg bound tail
  | binary l o r =>
    rw [Expr.places, List.map_append, ← Expr.places_pass hg bound l, ← Expr.places_pass hg bound r]
    rfl
  | subquery q => exact Query.places_pass hg bound q
  | form t ps => exact placesInPhrase_pass hg bound ps

theorem placesInExpr?_pass (hg : ∀ i, sc.name (g i) = sc.name i) (bound : List String)
    (e : Option Expr) :
    placesInExpr? sc (fun _ => false) bound (passExpr? (identPass g) e) =
      (placesInExpr? sc (fun _ => false) bound e).map (·.named g) := by
  cases e with
  | none => rfl
  | some e => exact Expr.places_pass hg bound e

/-- A pass that keeps what names mean keeps the places of a query. -/
theorem Query.places_pass (hg : ∀ i, sc.name (g i) = sc.name i) (bound : List String) (q : Query) :
    Query.places sc (fun _ => false) bound (q.passM (identPass g)) =
      (q.places sc (fun _ => false) bound).map (·.named g) := by
  obtain ⟨recursive, ctes, body, order, limit, offset, unit, detail, fetch, fetched, closing⟩ := q
  simp only [Query.places, List.map_append, ← cteNames_pass hg ctes,
    ← placesInCtes_pass hg recursive bound _ [] ctes, ← Body.places_pass hg _ body,
    ← placesInPhrase_pass hg _ order, ← placesInExpr?_pass hg _ limit,
    ← placesInExpr?_pass hg _ offset, ← placesInPhrase_pass hg _ detail,
    ← placesInExpr?_pass hg _ fetched]
  rfl

theorem placesInCtes_pass (hg : ∀ i, sc.name (g i) = sc.name i) (recursive : Bool)
    (bound all before : List String) (ctes : List Cte) :
    placesInCtes sc (fun _ => false) recursive bound all before (passCtes (identPass g) ctes) =
      (placesInCtes sc (fun _ => false) recursive bound all before ctes).map (·.named g) := by
  cases ctes with
  | nil => rfl
  | cons cte ctes =>
    obtain ⟨a, materialized, q, origin⟩ := cte
    rw [placesInCtes, List.map_append, ← Query.places_pass hg _ q,
      ← placesInCtes_pass hg recursive bound all _ ctes, ← hg a.name]
    rfl

theorem Body.places_pass (hg : ∀ i, sc.name (g i) = sc.name i) (bound : List String) (b : Body) :
    Body.places sc (fun _ => false) bound (b.passM (identPass g)) =
      (b.places sc (fun _ => false) bound).map (·.named g) := by
  cases b with
  | select s => exact Select.places_pass hg bound s
  | query q => exact Query.places_pass hg bound q
  | setOperation l o r =>
    rw [Body.places, List.map_append, ← Body.places_pass hg bound l, ← Body.places_pass hg bound r]
    rfl
  | phrase ps => exact placesInPhrase_pass hg bound ps

theorem Select.places_pass (hg : ∀ i, sc.name (g i) = sc.name i) (bound : List String)
    (s : Select) :
    Select.places sc (fun _ => false) bound (s.passM (identPass g)) =
      (s.places sc (fun _ => false) bound).map (·.named g) := by
  obtain ⟨opening, items, target, sources, clauses⟩ := s
  simp only [Select.places, List.map_append, ← placesInPhrase_pass hg bound opening,
    ← placesInItems_pass hg bound items, ← placesInSources_pass hg bound sources,
    ← placesInPhrase_pass hg bound clauses]
  rfl

theorem placesInItems_pass (hg : ∀ i, sc.name (g i) = sc.name i) (bound : List String)
    (items : List (Expr × Option Ident)) :
    placesInItems sc (fun _ => false) bound (passItems (identPass g) items) =
      (placesInItems sc (fun _ => false) bound items).map (·.named g) := by
  cases items with
  | nil => rfl
  | cons item items =>
    rw [placesInItems, List.map_append, ← Expr.places_pass hg bound item.1,
      ← placesInItems_pass hg bound items]
    rfl

theorem placesInSources_pass (hg : ∀ i, sc.name (g i) = sc.name i) (bound : List String)
    (ss : List Source) :
    placesInSources sc (fun _ => false) bound (passSources (identPass g) ss) =
      (placesInSources sc (fun _ => false) bound ss).map (·.named g) := by
  cases ss with
  | nil => rfl
  | cons s ss =>
    rw [placesInSources, List.map_append, ← Source.places_pass hg bound s,
      ← placesInSources_pass hg bound ss]
    rfl

theorem Source.places_pass (hg : ∀ i, sc.name (g i) = sc.name i) (bound : List String)
    (s : Source) :
    Source.places sc (fun _ => false) bound (s.passM (identPass g)) =
      (s.places sc (fun _ => false) bound).map (·.named g) := by
  obtain ⟨r, js⟩ := s
  rw [Source.places, List.map_append, ← Relation.places_pass hg bound r,
    ← placesInJoins_pass hg bound js]
  rfl

/-- A pass that keeps what names mean keeps the places of a relation. -/
theorem Relation.places_pass (hg : ∀ i, sc.name (g i) = sc.name i) (bound : List String)
    (r : Relation) :
    Relation.places sc (fun _ => false) bound (r.passM (identPass g)) =
      (r.places sc (fun _ => false) bound).map (·.named g) := by
  cases r with
  | table name isCall detail a tail =>
    rw [Relation.places, if_neg (by simp), List.map_cons, List.map_append,
      ← placesInPhrase_pass hg bound detail, ← placesInPhrase_pass hg bound tail]
    rfl
  | derived lateral q a =>
    rw [Relation.places, if_neg (by simp), List.map_cons, ← Query.places_pass hg bound q]
    rfl
  | nested s a =>
    rw [Relation.places, if_neg (by simp), List.map_cons, ← Source.places_pass hg bound s]
    rfl
  | form ps a tail =>
    rw [Relation.places, if_neg (by simp), List.map_cons, ← placesInPhrase_pass hg bound ps]
    rfl

theorem placesInJoins_pass (hg : ∀ i, sc.name (g i) = sc.name i) (bound : List String)
    (js : List Join) :
    placesInJoins sc (fun _ => false) bound (passJoins (identPass g) js) =
      (placesInJoins sc (fun _ => false) bound js).map (·.named g) := by
  cases js with
  | nil => rfl
  | cons j js =>
    obtain ⟨words, r, condition⟩ := j
    rw [placesInJoins, List.map_append, List.map_append, ← Relation.places_pass hg bound r,
      ← placesInPhrase_pass hg bound condition, ← placesInJoins_pass hg bound js]
    rfl

end

/-- A pass that keeps what names mean keeps the places of a statement. -/
theorem places_pass (hg : ∀ i, sc.name (g i) = sc.name i) (s : Statement) :
    (s.pass (identPass g)).places sc (fun _ => false) =
      (s.places sc fun _ => false).map (·.named g) := by
  cases s with
  | query q => exact Query.places_pass hg [] q
  | command ps => exact placesInPhrase_pass hg [] ps

/-- Identifiers may be written in another way, as long as they denote the same names. -/
theorem readings_pass (hg : ∀ i, sc.name (g i) = sc.name i) (s : Statement) :
    (s.pass (identPass g)).readings sc = s.readings sc := by
  rw [Statement.readings, places_pass hg s, List.filterMap_map, Statement.readings]
  congr 1
  exact funext fun p => Place.reading?_named hg p

end Naming

/-- Quoting keeps what is read, and whether it is a common table expression. -/
theorem readings_quoteNames (d : Dialect)
    (visible : Bool → List String → List String → List String) (s : Statement) :
    (quoteNames d s).readings ⟨Ident.denoted d, visible⟩ =
      s.readings ⟨Ident.denoted d, visible⟩ := by
  refine readings_pass (fun i => ?_) s
  obtain ⟨value, quote⟩ := i
  cases quote with
  | none => rfl
  | some q => rfl

end DatasetSql.Statement
