import DatasetSql.Proofs.Nodes
import DatasetSql.Proofs.Quoting
import DatasetSql.Proofs.Scopes
import Mathlib.Algebra.Order.Group.Multiset

/-!
# Quoting leaves no bare name

The names of a statement are those of its column references, of its tables that are no calls, of the
aliases of tables, calls and derived tables, of its common table expressions, and of the items of every
`SELECT` that a query is put together from. Each stands at one node: an expression, a relation or a
query. These are all the places at which a pass meets an identifier (`Statement.identifiers_perm`), and
quoting maps each of them (`Statement.names_pass`). So after quoting none of them is bare, and quoting
again, for whatever dialect, changes nothing.
-/

namespace DatasetSql.Statement

/-! ## Names -/

/-- The name of the alias of a relation. -/
def aliasNames (a : Option TableAlias) : List Ident := (a.map TableAlias.name).toList

/-- The aliases of the items of a select list. -/
def itemNames (items : List (Expr × Option Ident)) : List Ident := items.filterMap (·.2)

/-- The name of a common table expression. -/
def Cte.name : Cte → Ident
  | .mk asName _ _ _ => asName.name

/-- The aliases of the items of a `SELECT`. -/
def Select.itemNames : Select → List Ident
  | .mk _ items _ _ _ => Statement.itemNames items

/-- The aliases of the items of every `SELECT` that set operations put together. A query between
parentheses has names of its own. -/
def Body.itemNames : Body → List Ident
  | .select s => s.itemNames
  | .setOperation l _ r => l.itemNames ++ r.itemNames
  | .query _ | .phrase _ => []

/-- The names that an expression consists of, if it refers to a column. -/
def Expr.names : Expr → List Ident
  | .ident i => [i]
  | .compound is => is
  | _ => []

/-- The names of a relation: that of a table, and that of its alias. -/
def Relation.names : Relation → List Ident
  | .table name isCall _ asName _ => (if isCall then [] else name) ++ aliasNames asName
  | .derived _ _ asName => aliasNames asName
  | .nested _ _ | .form _ _ _ => []

/-- The names of a query: those of its common table expressions and of its items. -/
def Query.names : Query → List Ident
  | .mk _ ctes body _ _ _ _ _ _ _ _ => ctes.map Cte.name ++ body.itemNames

/-- The names that stand at a node. -/
def Node.names : Node → List Ident
  | .ident _ => []
  | .expr e => e.names
  | .relation r => r.names
  | .query q => q.names

/-- The identifier that a node is. -/
def Node.ident? : Node → Option Ident
  | .ident i => some i
  | _ => none

/-- A node with its identifiers changed. -/
def Node.named (g : Ident → Ident) : Node → Node
  | .ident i => .ident (g i)
  | .expr e => .expr (e.passM (identPass g))
  | .relation r => .relation (r.passM (identPass g))
  | .query q => .query (q.passM (identPass g))

/-! ## Changed names -/

section Changed

variable {g : Ident → Ident}

theorem identNodes_map (is : List Ident) :
    identNodes (is.map g) = (identNodes is).map (Node.named g) := by
  rw [identNodes, identNodes, List.map_map, List.map_map]
  rfl

theorem aliasNodes_map (a : Option TableAlias) :
    aliasNodes (a.map (·.pass (identPass g))) = (aliasNodes a).map (Node.named g) := by
  cases a with
  | none => rfl
  | some a => rfl

-- A pass that changes identifiers only keeps every node where it is.
mutual

/-- The nodes of a part whose identifiers were passed are its nodes with their names passed: the
pass moves none and adds none. -/
theorem Part.nodes_pass (x : Part) :
    Part.nodes (x.passM (identPass g)) = x.nodes.map (Node.named g) := by
  cases x with
  | words s => rfl
  | literal v => rfl
  | expr e => exact Expr.nodes_pass e
  | query q => exact Query.nodes_pass q
  | source s => exact Source.nodes_pass s
  | late ps => exact phraseNodes_pass ps

theorem phraseNodes_pass (ps : List Part) :
    phraseNodes (passPhrase (identPass g) ps) = (phraseNodes ps).map (Node.named g) := by
  cases ps with
  | nil => rfl
  | cons x ps =>
    rw [phraseNodes, List.map_append, ← Part.nodes_pass x, ← phraseNodes_pass ps]
    rfl

/-- The nodes of a passed expression are its nodes with their names passed. -/
theorem Expr.nodes_pass (e : Expr) :
    Expr.nodes (e.passM (identPass g)) = e.nodes.map (Node.named g) := by
  cases e with
  | ident i => rfl
  | compound is =>
    rw [Expr.nodes, List.map_cons, ← identNodes_map]
    rfl
  | value v => rfl
  | call name tail =>
    rw [Expr.nodes, List.map_cons, ← phraseNodes_pass tail]
    rfl
  | binary l o r =>
    rw [Expr.nodes, List.map_cons, List.map_append, ← Expr.nodes_pass l, ← Expr.nodes_pass r]
    rfl
  | subquery q =>
    rw [Expr.nodes, List.map_cons, ← Query.nodes_pass q]
    rfl
  | form t ps =>
    rw [Expr.nodes, List.map_cons, ← phraseNodes_pass ps]
    rfl

theorem exprNodes?_pass (e : Option Expr) :
    exprNodes? (passExpr? (identPass g) e) = (exprNodes? e).map (Node.named g) := by
  cases e with
  | none => rfl
  | some e => exact Expr.nodes_pass e

/-- The nodes of a passed query are its nodes with their names passed. -/
theorem Query.nodes_pass (q : Query) :
    Query.nodes (q.passM (identPass g)) = q.nodes.map (Node.named g) := by
  obtain ⟨recursive, ctes, body, order, limit, offset, unit, detail, fetch, fetched, closing⟩ := q
  simp only [Query.nodes, List.map_cons, List.map_append, ← cteNodes_pass ctes,
    ← Body.nodes_pass body, ← phraseNodes_pass order, ← exprNodes?_pass limit,
    ← exprNodes?_pass offset, ← phraseNodes_pass detail, ← exprNodes?_pass fetched]
  rfl

theorem cteNodes_pass (ctes : List Cte) :
    cteNodes (passCtes (identPass g) ctes) = (cteNodes ctes).map (Node.named g) := by
  cases ctes with
  | nil => rfl
  | cons cte ctes =>
    obtain ⟨a, materialized, q, origin⟩ := cte
    rw [cteNodes, List.map_append, List.map_append, ← identNodes_map, ← Query.nodes_pass q,
      ← cteNodes_pass ctes]
    rfl

theorem Body.nodes_pass (b : Body) :
    Body.nodes (b.passM (identPass g)) = b.nodes.map (Node.named g) := by
  cases b with
  | select s => exact Select.nodes_pass s
  | query q => exact Query.nodes_pass q
  | setOperation l o r =>
    rw [Body.nodes, List.map_append, ← Body.nodes_pass l, ← Body.nodes_pass r]
    rfl
  | phrase ps => exact phraseNodes_pass ps

theorem Select.nodes_pass (s : Select) :
    Select.nodes (s.passM (identPass g)) = s.nodes.map (Node.named g) := by
  obtain ⟨opening, items, target, sources, clauses⟩ := s
  simp only [Select.nodes, List.map_append, ← phraseNodes_pass opening, ← itemNodes_pass items,
    ← sourceNodes_pass sources, ← phraseNodes_pass clauses]
  rfl

theorem itemNodes_pass (items : List (Expr × Option Ident)) :
    itemNodes (passItems (identPass g) items) = (itemNodes items).map (Node.named g) := by
  cases items with
  | nil => rfl
  | cons item items =>
    obtain ⟨e, a⟩ := item
    have ha : identNodes (a.map g).toList = (identNodes a.toList).map (Node.named g) := by
      cases a with
      | none => rfl
      | some i => rfl
    rw [itemNodes, List.map_append, List.map_append, ← Expr.nodes_pass e, ← ha,
      ← itemNodes_pass items]
    rfl

theorem sourceNodes_pass (ss : List Source) :
    sourceNodes (passSources (identPass g) ss) = (sourceNodes ss).map (Node.named g) := by
  cases ss with
  | nil => rfl
  | cons s ss =>
    rw [sourceNodes, List.map_append, ← Source.nodes_pass s, ← sourceNodes_pass ss]
    rfl

theorem Source.nodes_pass (s : Source) :
    Source.nodes (s.passM (identPass g)) = s.nodes.map (Node.named g) := by
  obtain ⟨r, js⟩ := s
  rw [Source.nodes, List.map_append, ← Relation.nodes_pass r, ← joinNodes_pass js]
  rfl

/-- The nodes of a passed relation are its nodes with their names passed; the name of a function is
none of them. -/
theorem Relation.nodes_pass (r : Relation) :
    Relation.nodes (r.passM (identPass g)) = r.nodes.map (Node.named g) := by
  cases r with
  | table name isCall detail a tail =>
    -- the name of a call is neither passed nor a node
    have hname : identNodes (if isCall then [] else if isCall then name else name.map g) =
        (identNodes (if isCall then [] else name)).map (Node.named g) := by
      cases isCall with
      | true => rfl
      | false => exact identNodes_map name
    rw [Relation.nodes, List.map_cons, List.map_append, List.map_append, List.map_append, ← hname,
      ← phraseNodes_pass detail, ← aliasNodes_map, ← phraseNodes_pass tail]
    rfl
  | derived lateral q a =>
    rw [Relation.nodes, List.map_cons, List.map_append, ← Query.nodes_pass q, ← aliasNodes_map]
    rfl
  | nested s a =>
    rw [Relation.nodes, List.map_cons, ← Source.nodes_pass s]
    rfl
  | form ps a tail =>
    rw [Relation.nodes, List.map_cons, ← phraseNodes_pass ps]
    rfl

theorem joinNodes_pass (js : List Join) :
    joinNodes (passJoins (identPass g) js) = (joinNodes js).map (Node.named g) := by
  cases js with
  | nil => rfl
  | cons j js =>
    obtain ⟨words, r, condition⟩ := j
    rw [joinNodes, List.map_append, List.map_append, ← Relation.nodes_pass r,
      ← phraseNodes_pass condition, ← joinNodes_pass js]
    rfl

end

theorem itemNames_passItems (items : List (Expr × Option Ident)) :
    itemNames (passItems (identPass g) items) = (itemNames items).map g := by
  induction items with
  | nil => rfl
  | cons item items ih =>
    obtain ⟨e, a⟩ := item
    cases a with
    | none => exact ih
    | some i => exact congrArg (g i :: ·) ih

theorem Body.itemNames_pass (b : Body) :
    Body.itemNames (b.passM (identPass g)) = b.itemNames.map g := by
  cases b with
  | select s =>
    obtain ⟨opening, items, target, sources, clauses⟩ := s
    exact itemNames_passItems items
  | query q => rfl
  | setOperation l o r =>
    rw [Body.itemNames, List.map_append, ← Body.itemNames_pass l, ← Body.itemNames_pass r]
    rfl
  | phrase ps => rfl

theorem map_name_passCtes (ctes : List Cte) :
    (passCtes (identPass g) ctes).map Cte.name = (ctes.map Cte.name).map g := by
  induction ctes with
  | nil => rfl
  | cons cte ctes ih =>
    obtain ⟨a, materialized, q, origin⟩ := cte
    exact congrArg (g a.name :: ·) ih

/-- The names that stand at a node are changed with it. -/
theorem Node.names_named (n : Node) : (n.named g).names = n.names.map g := by
  have halias (a : Option TableAlias) :
      aliasNames (a.map (·.pass (identPass g))) = (aliasNames a).map g := by
    cases a with
    | none => rfl
    | some a => rfl
  -- of expressions and relations only those with a name of their own say anything here
  cases n with
  | ident i => rfl
  | expr e =>
    cases e with
    | ident i => rfl
    | compound is => rfl
    | value v => rfl
    | call name tail => rfl
    | binary l o r => rfl
    | subquery q => rfl
    | form t ps => rfl
  | relation r =>
    cases r with
    | table name isCall detail a tail =>
      show (if isCall then [] else if isCall then name else name.map g) ++ aliasNames (a.map _) =
        ((if isCall then [] else name) ++ aliasNames a).map g
      rw [halias, List.map_append]
      cases isCall with
      | true => rfl
      | false => rfl
    | derived lateral q a => exact halias a
    | nested s a => rfl
    | form ps a tail => rfl
  | query q =>
    obtain ⟨recursive, ctes, body, order, limit, offset, unit, detail, fetch, fetched, closing⟩ := q
    show (passCtes (identPass g) ctes).map Cte.name ++ Body.itemNames (body.passM (identPass g)) =
      (ctes.map Cte.name ++ body.itemNames).map g
    rw [List.map_append, map_name_passCtes, Body.itemNames_pass]

end Changed

/-! ## Where names stand -/

section Owned

/-- The identifiers among some nodes. -/
def identsAmong (ns : List Node) : List Ident := ns.filterMap Node.ident?

/-- The names that stand at some nodes. -/
def namesAt (ns : List Node) : List Ident := ns.flatMap Node.names

@[simp] theorem identsAmong_append (ns ns' : List Node) :
    identsAmong (ns ++ ns') = identsAmong ns ++ identsAmong ns' :=
  List.filterMap_append

@[simp] theorem identsAmong_expr (e : Expr) (ns : List Node) :
    identsAmong (.expr e :: ns) = identsAmong ns := rfl

@[simp] theorem identsAmong_relation (r : Relation) (ns : List Node) :
    identsAmong (.relation r :: ns) = identsAmong ns := rfl

@[simp] theorem identsAmong_query (q : Query) (ns : List Node) :
    identsAmong (.query q :: ns) = identsAmong ns := rfl

@[simp] theorem identsAmong_identNodes (is : List Ident) : identsAmong (identNodes is) = is := by
  rw [identsAmong, identNodes, List.filterMap_map]
  exact List.filterMap_some

@[simp] theorem namesAt_append (ns ns' : List Node) :
    namesAt (ns ++ ns') = namesAt ns ++ namesAt ns' :=
  List.flatMap_append

@[simp] theorem namesAt_cons (n : Node) (ns : List Node) :
    namesAt (n :: ns) = n.names ++ namesAt ns :=
  List.flatMap_cons

@[simp] theorem namesAt_identNodes (is : List Ident) : namesAt (identNodes is) = [] := by
  induction is with
  | nil => rfl
  | cons i is ih => exact ih

-- The names of common table expressions and of items stand at the query around them, so up to there
-- they are carried along.
mutual

theorem Part.coe_identsAmong (x : Part) :
    (identsAmong x.nodes : Multiset Ident) = namesAt x.nodes := by
  cases x with
  | words s => rfl
  | literal v => rfl
  | expr e => exact Expr.coe_identsAmong e
  | query q => exact Query.coe_identsAmong q
  | source s => exact Source.coe_identsAmong s
  | late ps => exact coe_identsAmong_phrase ps

theorem coe_identsAmong_phrase (ps : List Part) :
    (identsAmong (phraseNodes ps) : Multiset Ident) = namesAt (phraseNodes ps) := by
  cases ps with
  | nil => rfl
  | cons x ps =>
    simp only [phraseNodes, identsAmong_append, namesAt_append, ← Multiset.coe_add,
      Part.coe_identsAmong x, coe_identsAmong_phrase ps]

/-- The identifiers of an expression are the names at its nodes, each as often. -/
theorem Expr.coe_identsAmong (e : Expr) :
    (identsAmong e.nodes : Multiset Ident) = namesAt e.nodes := by
  cases e with
  | ident i => rfl
  | compound is =>
    simp only [Expr.nodes, identsAmong_expr, identsAmong_identNodes, namesAt_cons, Node.names,
      Expr.names, namesAt_identNodes, List.append_nil]
  | value v => rfl
  | call name tail => exact coe_identsAmong_phrase tail
  | binary l o r =>
    simp only [Expr.nodes, identsAmong_expr, identsAmong_append, namesAt_cons, Node.names,
      Expr.names, namesAt_append, List.nil_append, ← Multiset.coe_add, Expr.coe_identsAmong l,
      Expr.coe_identsAmong r]
  | subquery q => exact Query.coe_identsAmong q
  | form t ps => exact coe_identsAmong_phrase ps

theorem coe_identsAmong_expr? (e : Option Expr) :
    (identsAmong (exprNodes? e) : Multiset Ident) = namesAt (exprNodes? e) := by
  cases e with
  | none => rfl
  | some e => exact Expr.coe_identsAmong e

/-- The identifiers of a query are the names at its nodes; the aliases of its items are named at the
query, not below it. -/
theorem Query.coe_identsAmong (q : Query) :
    (identsAmong q.nodes : Multiset Ident) = namesAt q.nodes := by
  obtain ⟨recursive, ctes, body, order, limit, offset, unit, detail, fetch, fetched, closing⟩ := q
  simp only [Query.nodes, identsAmong_query, identsAmong_append, namesAt_cons, Node.names,
    Query.names, namesAt_append, ← Multiset.coe_add, coe_identsAmong_ctes ctes,
    Body.coe_identsAmong body, coe_identsAmong_phrase order, coe_identsAmong_expr? limit,
    coe_identsAmong_expr? offset, coe_identsAmong_phrase detail, coe_identsAmong_expr? fetched]
  ac_rfl

/-- Common table expressions have their own names besides those at their nodes. -/
theorem coe_identsAmong_ctes (ctes : List Cte) :
    (identsAmong (cteNodes ctes) : Multiset Ident) =
      ctes.map Cte.name + namesAt (cteNodes ctes) := by
  cases ctes with
  | nil => rfl
  | cons cte ctes =>
    obtain ⟨a, materialized, q, origin⟩ := cte
    have hnames : (((Cte.mk a materialized q origin :: ctes).map Cte.name : List Ident) :
        Multiset Ident) = ([a.name] : List Ident) + (ctes.map Cte.name : List Ident) := rfl
    simp only [cteNodes, hnames, identsAmong_append, identsAmong_identNodes, namesAt_append,
      namesAt_identNodes, List.nil_append, ← Multiset.coe_add, Query.coe_identsAmong q,
      coe_identsAmong_ctes ctes]
    ac_rfl

/-- A body has the aliases of its items besides the names at its nodes. -/
theorem Body.coe_identsAmong (b : Body) :
    (identsAmong b.nodes : Multiset Ident) = b.itemNames + namesAt b.nodes := by
  cases b with
  | select s => exact Select.coe_identsAmong s
  | query q => exact (Query.coe_identsAmong q).trans (zero_add _).symm
  | setOperation l o r =>
    simp only [Body.nodes, Body.itemNames, identsAmong_append, namesAt_append, ← Multiset.coe_add,
      Body.coe_identsAmong l, Body.coe_identsAmong r]
    ac_rfl
  | phrase ps => exact (coe_identsAmong_phrase ps).trans (zero_add _).symm

/-- A `SELECT` has the aliases of its items besides the names at its nodes. -/
theorem Select.coe_identsAmong (s : Select) :
    (identsAmong s.nodes : Multiset Ident) = s.itemNames + namesAt s.nodes := by
  obtain ⟨opening, items, target, sources, clauses⟩ := s
  simp only [Select.nodes, Select.itemNames, identsAmong_append, namesAt_append,
    ← Multiset.coe_add, coe_identsAmong_phrase opening, coe_identsAmong_items items,
    coe_identsAmong_sources sources, coe_identsAmong_phrase clauses]
  ac_rfl

/-- Items have their aliases besides the names at their nodes. -/
theorem coe_identsAmong_items (items : List (Expr × Option Ident)) :
    (identsAmong (itemNodes items) : Multiset Ident) =
      itemNames items + namesAt (itemNodes items) := by
  cases items with
  | nil => rfl
  | cons item items =>
    obtain ⟨e, a⟩ := item
    have ha : itemNames ((e, a) :: items) = a.toList ++ itemNames items := by
      cases a with
      | none => rfl
      | some i => rfl
    simp only [itemNodes, ha, identsAmong_append, identsAmong_identNodes, namesAt_append,
      namesAt_identNodes, List.append_nil, ← Multiset.coe_add, Expr.coe_identsAmong e,
      coe_identsAmong_items items]
    ac_rfl

theorem coe_identsAmong_sources (ss : List Source) :
    (identsAmong (sourceNodes ss) : Multiset Ident) = namesAt (sourceNodes ss) := by
  cases ss with
  | nil => rfl
  | cons s ss =>
    simp only [sourceNodes, identsAmong_append, namesAt_append, ← Multiset.coe_add,
      Source.coe_identsAmong s, coe_identsAmong_sources ss]

theorem Source.coe_identsAmong (s : Source) :
    (identsAmong s.nodes : Multiset Ident) = namesAt s.nodes := by
  obtain ⟨r, js⟩ := s
  simp only [Source.nodes, identsAmong_append, namesAt_append, ← Multiset.coe_add,
    Relation.coe_identsAmong r, coe_identsAmong_joins js]

/-- The identifiers of a relation are the names at its nodes. -/
theorem Relation.coe_identsAmong (r : Relation) :
    (identsAmong r.nodes : Multiset Ident) = namesAt r.nodes := by
  cases r with
  | table name isCall detail a tail =>
    simp only [Relation.nodes, aliasNodes, identsAmong_relation, identsAmong_append,
      identsAmong_identNodes, namesAt_cons, Node.names, Relation.names, aliasNames, namesAt_append,
      namesAt_identNodes, List.nil_append, List.append_nil, ← Multiset.coe_add,
      coe_identsAmong_phrase detail, coe_identsAmong_phrase tail]
    ac_rfl
  | derived lateral q a =>
    simp only [Relation.nodes, aliasNodes, identsAmong_relation, identsAmong_append,
      identsAmong_identNodes, namesAt_cons, Node.names, Relation.names, aliasNames, namesAt_append,
      namesAt_identNodes, List.append_nil, ← Multiset.coe_add, Query.coe_identsAmong q]
    ac_rfl
  | nested s a => exact Source.coe_identsAmong s
  | form ps a tail => exact coe_identsAmong_phrase ps

theorem coe_identsAmong_joins (js : List Join) :
    (identsAmong (joinNodes js) : Multiset Ident) = namesAt (joinNodes js) := by
  cases js with
  | nil => rfl
  | cons j js =>
    obtain ⟨words, r, condition⟩ := j
    simp only [joinNodes, identsAmong_append, namesAt_append, ← Multiset.coe_add,
      Relation.coe_identsAmong r, coe_identsAmong_phrase condition, coe_identsAmong_joins js]

end

end Owned

end DatasetSql.Statement

namespace DatasetSql

open Statement

namespace Statement

/-- The identifiers of a statement, wherever a pass meets one. -/
def identifiers (s : Statement) : List Ident := identsAmong s.nodes

/-- The names of a statement, in the order of the nodes that they stand at. -/
def names (s : Statement) : List Ident := namesAt s.nodes

/-- Every identifier is a name that stands at one node. -/
theorem identifiers_perm (s : Statement) : s.identifiers.Perm s.names := by
  rw [← Multiset.coe_eq_coe]
  cases s with
  | query q => exact Query.coe_identsAmong q
  | command ps => exact coe_identsAmong_phrase ps

/-- The nodes of a statement whose identifiers are passed are its nodes, each with its own names
passed. -/
theorem nodes_pass (g : Ident → Ident) (s : Statement) :
    (s.pass (identPass g)).nodes = s.nodes.map (Node.named g) := by
  cases s with
  | query q => exact Query.nodes_pass q
  | command ps => exact phraseNodes_pass ps

/-- A pass that changes identifiers only changes the names one by one. -/
theorem names_pass (g : Ident → Ident) (s : Statement) :
    (s.pass (identPass g)).names = s.names.map g := by
  rw [names, namesAt, nodes_pass, List.flatMap_map, names, namesAt, List.map_flatMap]
  exact congrArg (List.flatMap · s.nodes) (funext Node.names_named)

/-- A quoted identifier has a quote. -/
theorem Ident.Quoted.isSome {d : Dialect} {i j : Ident} (h : i.Quoted d j) : j.quote.isSome = true := by
  rw [h.delimiter]
  rfl

/-- After quoting for a dialect, no name at any node of a statement is bare, and the names are all the
identifiers that there are. Each name denotes what it denoted before, in the delimiters that it had or
else in those of the dialect. Quoting again, for this or any other dialect, changes nothing. -/
theorem quoteNames_covers (d : Dialect) (s : Statement) :
    (∀ n ∈ (quoteNames d s).nodes, ∀ i ∈ n.names, i.quote.isSome = true) ∧
      (quoteNames d s).identifiers.Perm (quoteNames d s).names ∧
      List.Forall₂ (Ident.Quoted d) s.names (quoteNames d s).names ∧
      ∀ d', quoteNames d' (quoteNames d s) = quoteNames d s := by
  have hmap : (quoteNames d s).names = s.names.map (Ident.quoteFor d) := names_pass _ s
  refine ⟨fun n hn i hi => ?_, identifiers_perm _, ?_, fun d' => quoteNames_quoteNames d d' s⟩
  · have hmem : i ∈ (quoteNames d s).names := List.mem_flatMap.2 ⟨n, hn, hi⟩
    rw [hmap] at hmem
    obtain ⟨j, -, rfl⟩ := List.mem_map.1 hmem
    exact (j.quoted_quoteFor d).isSome
  · rw [hmap]
    exact forall₂_map_ident (Ident.quoted_quoteFor d) s.names

end Statement

end DatasetSql
