import DatasetSql.Proofs.Capture
import DatasetSql.Proofs.Quoting

/-!
# Names under which relations are visible

A relation is referred to by its alias, and a table without one by the last part of its name. What a
mapping puts in the place of a table gets the alias of the table, or else its name as a bare
identifier. A bare identifier is folded when it is quoted. So the replacement is visible under the
name of the reference, with one exception: a delimited name that folding would change.
-/

namespace DatasetSql.Statement

/-- The identifier by which a relation is referred to. -/
def Relation.shown? : Relation → Option Ident
  | .table name _ _ asName _ => (asName.map (·.name)).or name.getLast?
  | .derived _ _ asName | .nested _ asName | .form _ asName _ => asName.map (·.name)

/-- The name under which a relation is visible. -/
def Relation.visibleName? (d : Dialect) (r : Relation) : Option String :=
  r.shown?.map (Ident.denoted d)

/-- The identifier before the column in a qualified column reference. -/
def Expr.qualifier? : Expr → Option Ident
  | .compound parts => parts.dropLast.getLast?
  | _ => none

/-- A column reference is qualified by the name of a relation. -/
def Expr.RefersTo (d : Dialect) (e : Expr) (r : Relation) : Prop :=
  ∃ i, e.qualifier? = some i ∧ r.visibleName? d = some (i.denoted d)

/-- The place in a scope of the first relation that a column reference is qualified by. -/
def Expr.target? (d : Dialect) (scope : List Relation) (e : Expr) : Option Nat :=
  e.qualifier?.bind fun i => scope.findIdx? fun r => r.visibleName? d == some (i.denoted d)

/-- The relation with its bare identifiers quoted. -/
def Relation.quoteFor (d : Dialect) (r : Relation) : Relation :=
  r.passM (identPass (Ident.quoteFor d))

/-- The expression with its bare identifiers quoted. -/
def Expr.quoteFor (d : Dialect) (e : Expr) : Expr := e.passM (identPass (Ident.quoteFor d))

/-- A table that is referred to by its own name has one that is bare, or that folding does not
change. -/
def Relation.KeepsName (d : Dialect) : Relation → Prop
  | .table name false _ none _ =>
    ∀ i ∈ name.getLast?, i.quote = none ∨ d.foldIdentifier i.value = i.value
  | _ => True

section

variable {d : Dialect}

/-- Quoting keeps the name that an identifier denotes. -/
theorem Ident.denoted_quoteFor (i : Ident) : (i.quoteFor d).denoted d = i.denoted d :=
  (i.quoted_quoteFor d).denoted

theorem Ident.denoted_comp_quoteFor : Ident.denoted d ∘ Ident.quoteFor d = Ident.denoted d :=
  funext fun i => i.denoted_quoteFor

/-- Quoting keeps the names under which relations are visible. -/
theorem Relation.visibleName?_quoteFor (r : Relation) :
    (r.quoteFor d).visibleName? d = r.visibleName? d := by
  cases r with
  | table name isCall detail a tail =>
    cases a with
    | some a => exact congrArg some a.name.denoted_quoteFor
    | none =>
      cases isCall with
      | true => rfl
      | false =>
        show ((name.map (Ident.quoteFor d)).getLast?).map _ = _
        rw [List.getLast?_map, Option.map_map, Ident.denoted_comp_quoteFor]
        rfl
  | derived lateral q a =>
    cases a with
    | some a => exact congrArg some a.name.denoted_quoteFor
    | none => rfl
  | nested s a => rfl
  | form ps a tail => rfl

/-- The qualifier of a quoted expression is its quoted qualifier. -/
theorem Expr.qualifier?_quoteFor (e : Expr) :
    (e.quoteFor d).qualifier? = e.qualifier?.map (Ident.quoteFor d) := by
  cases e with
  | compound parts =>
    show (parts.map (Ident.quoteFor d)).dropLast.getLast? = _
    rw [← List.map_dropLast, List.getLast?_map]
    rfl
  | ident i => rfl
  | value v => rfl
  | call name tail => rfl
  | binary l operator r => rfl
  | subquery q => rfl
  | form tight ps => rfl

/-- A column reference refers by name, which quoting keeps. -/
theorem Expr.refersTo_quoteFor {e : Expr} {r : Relation} :
    (e.quoteFor d).RefersTo d r ↔ e.RefersTo d r := by
  unfold Expr.RefersTo
  rw [Expr.qualifier?_quoteFor]
  constructor
  · rintro ⟨j, hj, hr⟩
    obtain ⟨i, hi, rfl⟩ := Option.map_eq_some_iff.1 hj
    rw [Ident.denoted_quoteFor] at hr
    exact ⟨i, hi, hr⟩
  · rintro ⟨i, hi, hr⟩
    refine ⟨i.quoteFor d, by rw [hi, Option.map_some], ?_⟩
    rw [Ident.denoted_quoteFor, hr]

/-- Where relations stay visible under their names, references find the same ones. -/
theorem Expr.target?_quoteFor {g : Relation → Relation} {scope : List Relation}
    (h : ∀ r ∈ scope, (g r).visibleName? d = r.visibleName? d) (e : Expr) :
    (e.quoteFor d).target? d (scope.map g) = e.target? d scope := by
  unfold Expr.target?
  rw [Expr.qualifier?_quoteFor]
  cases e.qualifier? with
  | none => rfl
  | some i =>
    show (scope.map g).findIdx? _ = scope.findIdx? _
    rw [List.findIdx?_map, Ident.denoted_quoteFor]
    induction scope with
    | nil => rfl
    | cons r scope ih =>
      obtain ⟨hr, hscope⟩ := List.forall_mem_cons.1 h
      rw [List.findIdx?_cons, List.findIdx?_cons, ih hscope, Function.comp_apply, hr]

end

end DatasetSql.Statement

namespace DatasetSql.TableMapping

open Statement

variable {m : TableMapping} {d : Dialect}

/-- What stands in the place of a relation after substituting and quoting. -/
def rewritten (m : TableMapping) (d : Dialect) (r : Relation) : Relation :=
  ((m.replacement? r).getD (r.replaceRelations m.replacement?)).quoteFor d

/-- A relation that is not replaced stays visible as it was. -/
theorem visibleName?_replaceRelations {f : Relation → Option Relation} {r : Relation}
    (h : f r = none) : (r.replaceRelations f).visibleName? d = r.visibleName? d := by
  cases r with
  | table name isCall detail a tail => rw [Relation.replaceRelations, h]; rfl
  | derived lateral q a => rw [Relation.replaceRelations, h]; rfl
  | nested s a => rw [Relation.replaceRelations, h]; rfl
  | form ps a tail => rw [Relation.replaceRelations, h]; rfl

/-- A relation under an alias is shown by that alias. -/
theorem shown?_of_underAlias {a : TableAlias} {r r' : Relation} (h : UnderAlias a r r') :
    r'.shown? = some a.name := by
  cases h with
  | table => rfl
  | derived => rfl

/-- A replacement is visible under the name of the reference exactly if that has an alias, or its
name is bare, or folding does not change it. -/
theorem Replaces.visibleName?_eq_iff {r r' : Relation} (h : m.Replaces r r') :
    r'.visibleName? d = r.visibleName? d ↔ r.KeepsName d := by
  obtain ⟨name, detail, asName, tail, last, target, rfl, hlast, -, halias⟩ := h
  have hshown := shown?_of_underAlias halias
  cases asName with
  | some a =>
    refine iff_of_true ?_ trivial
    rw [Relation.visibleName?, hshown]
    rfl
  | none =>
    obtain ⟨value, quote⟩ := last
    rw [Relation.visibleName?, Relation.visibleName?, hshown]
    simp only [Relation.shown?, Option.map_none, Option.none_or, hlast, Option.map_some,
      Option.some.injEq, Relation.KeepsName, Option.mem_def, forall_eq', Option.getD_none]
    cases quote with
    | none => simp [Ident.denoted]
    | some q => simp [Ident.denoted]

/-- Whatever is put in the place of a table has an alias, which is quoted in the result. -/
theorem Replaces.exists_alias {r r' : Relation} (h : m.Replaces r r') :
    ∃ a, aliasOf (r'.quoteFor d) = some a ∧ a.name.quote.isSome := by
  obtain ⟨name, detail, asName, tail, last, target, rfl, hlast, -, halias⟩ := h
  generalize target.factor = r at halias
  have hquoted (i : Ident) : (i.quoteFor d).quote.isSome = true := by
    rw [(i.quoted_quoteFor d).delimiter]
    rfl
  cases halias with
  | table => exact ⟨_, rfl, hquoted _⟩
  | derived => exact ⟨_, rfl, hquoted _⟩

/-- Where a relation of the statement stood, its rewritten form stands among the same names. -/
theorem mem_places_rewritten (visible : Bool → List String → List String → List String)
    {s : Statement} {p : Place} (hp : p ∈ m.sites ⟨Ident.denoted d, visible⟩ s) :
    ⟨p.bound, m.rewritten d p.relation⟩ ∈
      (quoteNames d (m.substitute s).1).places ⟨Ident.denoted d, visible⟩ fun _ => false := by
  let sc : Scoping := ⟨Ident.denoted d, visible⟩
  have hquoted : (quoteNames d (m.substitute s).1).places sc (fun _ => false) =
      ((m.substitute s).1.places sc fun _ => false).map (·.named (Ident.quoteFor d)) :=
    @places_pass sc _ (fun i => i.denoted_quoteFor) (m.substitute s).1
  show _ ∈ (quoteNames d (m.substitute s).1).places sc fun _ => false
  rw [hquoted, substitute_eq, places_replaceRelations]
  refine List.mem_map.2 ⟨⟨p.bound, (m.replacement? p.relation).getD
    (p.relation.replaceRelations m.replacement?)⟩, List.mem_flatMap.2 ⟨p, hp, ?_⟩, rfl⟩
  unfold Place.replaced
  cases m.replacement? p.relation with
  | none => exact List.mem_singleton.2 rfl
  | some r =>
    -- the places of a relation begin with its own
    cases r <;> exact List.mem_cons_self

/-- For every accepted mapping, statement and dialect: where a relation of the statement stood, its
rewritten form stands. A replacement has a quoted alias. It is visible under the name under which the
reference was visible, and so is found by the quoted form of every column reference that the
reference was found by, exactly if the reference has an alias, or its name is bare, or folding does
not change the name. All other relations stay visible as they were. In a scope in which every
replaced reference is of that kind, every column reference finds the relation that it found. -/
theorem substitute_visible_iff {entries : List (String × String)} {source : Option Dialect}
    (h : read entries source = .ok m) (d : Dialect)
    (visible : Bool → List String → List String → List String) (s : Statement) :
    (∀ p ∈ m.sites ⟨Ident.denoted d, visible⟩ s, ⟨p.bound, m.rewritten d p.relation⟩ ∈
      (quoteNames d (m.substitute s).1).places ⟨Ident.denoted d, visible⟩ fun _ => false) ∧
    (∀ r r', m.Replaces r r' →
      (∃ a, aliasOf (m.rewritten d r) = some a ∧ a.name.quote.isSome) ∧
      ((m.rewritten d r).visibleName? d = r.visibleName? d ↔ r.KeepsName d) ∧
      ∀ e : Expr, e.RefersTo d r →
        ((e.quoteFor d).RefersTo d (m.rewritten d r) ↔ r.KeepsName d)) ∧
    (∀ r, (∀ r', ¬ m.Replaces r r') → (m.rewritten d r).visibleName? d = r.visibleName? d) ∧
    ∀ scope : List Relation, (∀ r ∈ scope, ∀ r', m.Replaces r r' → r.KeepsName d) →
      ∀ e : Expr, (e.quoteFor d).target? d (scope.map (m.rewritten d)) = e.target? d scope := by
  have hm := accepted_of_read h
  have hreplaced (r r' : Relation) (hr : m.Replaces r r') : m.rewritten d r = r'.quoteFor d := by
    rw [rewritten, (replacement?_eq_some_iff hm).2 hr]
    rfl
  have hname (r r' : Relation) (hr : m.Replaces r r') :
      (m.rewritten d r).visibleName? d = r.visibleName? d ↔ r.KeepsName d := by
    rw [hreplaced r r' hr, Relation.visibleName?_quoteFor]
    exact hr.visibleName?_eq_iff
  -- what is not replaced keeps its alias or its name
  have hkept (r : Relation) (hr : ∀ r', ¬ m.Replaces r r') :
      (m.rewritten d r).visibleName? d = r.visibleName? d := by
    have hnone : m.replacement? r = none := by
      cases hsome : m.replacement? r with
      | none => rfl
      | some r' => exact absurd ((replacement?_eq_some_iff hm).1 hsome) (hr r')
    rw [rewritten, hnone, Relation.visibleName?_quoteFor]
    exact visibleName?_replaceRelations hnone
  refine ⟨fun p hp => mem_places_rewritten visible hp, fun r r' hr => ⟨?_, hname r r' hr, ?_⟩,
    hkept, fun scope hscope e => ?_⟩
  · rw [hreplaced r r' hr]
    exact hr.exists_alias
  · rintro e ⟨i, hi, hvisible⟩
    rw [Expr.refersTo_quoteFor, ← hname r r' hr, hvisible]
    constructor
    · rintro ⟨j, hj, hrewritten⟩
      obtain rfl : i = j := Option.some.inj (hi.symm.trans hj)
      exact hrewritten
    · exact fun hrewritten => ⟨i, hi, hrewritten⟩
  · apply Expr.target?_quoteFor
    intro r hr
    -- in the scope are replaced relations and kept ones
    by_cases hreplaces : ∃ r', m.Replaces r r'
    · obtain ⟨r', hr'⟩ := hreplaces
      exact (hname r r' hr').2 (hscope r hr r' hr')
    · exact hkept r fun r' hr' => hreplaces ⟨r', hr'⟩

/-- The names under which the relations of a statement are visible, before and after they are
rewritten. -/
def shownNames (m : TableMapping) (d : Dialect) (s : Statement) :
    List (Option String × Option String) :=
  (m.sites (.standard d) s).map fun p =>
    (p.relation.visibleName? d, (m.rewritten d p.relation).visibleName? d)

/-- A table with an alias and one without, whose name is bare, stay visible, and the column of the
second finds it. -/
theorem substitute_visible_iff_joined :
    let sql := "SELECT * FROM \"Orders\" AS \"O\" JOIN Items ON \"O\".id = Items.id"
    let column : Expr := .compound [⟨"Items", none⟩, ⟨"id", none⟩]
    ∃ m s, read [("Orders", "sales.orders"), ("Items", "SELECT 1 AS id")] none = .ok m ∧
      readOne sql (some .postgres) = .ok s ∧
      m.shownNames .postgres s = [(some "O", some "O"), (some "items", some "items")] ∧
      let scope := (m.sites (.standard .postgres) s).map (·.relation)
      column.target? .postgres scope = some 1 ∧
        (column.quoteFor .postgres).target? .postgres (scope.map (m.rewritten .postgres)) =
          some 1 := by
  intro sql column
  have hrun : ((read [("Orders", "sales.orders"), ("Items", "SELECT 1 AS id")] none).toOption.bind
      fun m => (readOne sql (some .postgres)).toOption.map fun s =>
        (m.shownNames .postgres s,
          column.target? .postgres ((m.sites (.standard .postgres) s).map (·.relation)))) =
      some ([(some "O", some "O"), (some "items", some "items")], some 1) := by decide +kernel
  obtain ⟨m, hm, hrun⟩ := Option.bind_eq_some_iff.1 hrun
  obtain ⟨s, hs, hrun⟩ := Option.map_eq_some_iff.1 hrun
  obtain ⟨hshown, htarget⟩ := Prod.mk.inj hrun
  rw [toOption_eq_some] at hm hs
  obtain ⟨-, hreplaced, -, hfound⟩ :=
    substitute_visible_iff hm .postgres (Scoping.standard .postgres).visible s
  refine ⟨m, s, hm, hs, hshown, htarget, (hfound _ (fun r hr r' hr' => ?_) column).trans htarget⟩
  obtain ⟨p, hp, rfl⟩ := List.mem_map.1 hr
  -- the run pairs the name of each site before and after
  have hpair : (p.relation.visibleName? .postgres,
      (m.rewritten .postgres p.relation).visibleName? .postgres) ∈ m.shownNames .postgres s :=
    List.mem_map.2 ⟨p, hp, rfl⟩
  rw [hshown] at hpair
  refine (hreplaced _ r' hr').2.1.1 ?_
  simp only [List.mem_cons, Prod.mk.injEq, List.not_mem_nil, or_false] at hpair
  obtain ⟨hbefore, hafter⟩ | ⟨hbefore, hafter⟩ := hpair
  · rw [hbefore, hafter]
  · rw [hbefore, hafter]

/-- A delimited name becomes a bare alias, which folds: the column that was qualified by the table
names no relation of the rewritten statement. -/
theorem substitute_hides_delimited :
    let sql := "SELECT \"Orders\".id FROM \"Orders\""
    let column : Expr := .compound [⟨"Orders", some '"'⟩, ⟨"id", none⟩]
    ∃ m s, read [("Orders", "sales.orders")] none = .ok m ∧
      readOne sql (some .postgres) = .ok s ∧
      m.shownNames .postgres s = [(some "Orders", some "orders")] ∧
      (let scope := (m.sites (.standard .postgres) s).map (·.relation)
       column.target? .postgres scope = some 0 ∧
       (column.quoteFor .postgres).target? .postgres (scope.map (m.rewritten .postgres)) = none) ∧
      replaceTables sql m .postgres =
        .ok "SELECT \"Orders\".\"id\" FROM \"sales\".\"orders\" AS \"orders\"" := by
  intro sql column
  have hrun : ((read [("Orders", "sales.orders")] none).toOption.bind fun m =>
      (readOne sql (some .postgres)).toOption.map fun s =>
        let scope := (m.sites (.standard .postgres) s).map (·.relation)
        (m.shownNames .postgres s, column.target? .postgres scope,
          (column.quoteFor .postgres).target? .postgres (scope.map (m.rewritten .postgres)),
          (replaceTables sql m .postgres).toOption)) =
      some ([(some "Orders", some "orders")], some 0, none,
        some "SELECT \"Orders\".\"id\" FROM \"sales\".\"orders\" AS \"orders\"") := by
    decide +kernel
  obtain ⟨m, hm, hrun⟩ := Option.bind_eq_some_iff.1 hrun
  obtain ⟨s, hs, hrun⟩ := Option.map_eq_some_iff.1 hrun
  simp only [Prod.mk.injEq] at hrun
  obtain ⟨hshown, hbefore, hafter, htext⟩ := hrun
  rw [toOption_eq_some] at hm hs htext
  exact ⟨m, s, hm, hs, hshown, ⟨hbefore, hafter⟩, htext⟩

end DatasetSql.TableMapping
