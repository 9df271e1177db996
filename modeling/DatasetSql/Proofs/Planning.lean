import DatasetSql.Proofs.JoinChain
import DatasetSql.Proofs.Search

/-!
# Which views can be planned

The links of a view can be planned exactly if each of them equates columns of two different tables and
each but the first has exactly one of these among the tables of the links before it. The plan has a
join for each link, in the order of the links, which brings the table that is new. So it spans the
linked tables: each of them is planned once, and no other is. Without links, a view is planned exactly
if its columns name one table.
-/

namespace DatasetSql

/-! ## Names of columns -/

/-- A name is that of a column of a table: the first dot stands between the two, and neither is
empty. -/
structure Qualified (name : String) (c : TableColumn) : Prop where
  text : name.toList = c.1.toList ++ '.' :: c.2.toList
  firstDot : '.' ∉ c.1.toList
  table : c.1 ≠ ""
  column : c.2 ≠ ""

/-- A name is taken apart at its dot exactly if it has one with something on either side. -/
theorem qualifiedName?_eq_some_iff {name : String} {c : TableColumn} :
    qualifiedName? name = some c ↔ Qualified name c := by
  obtain ⟨table, column⟩ := c
  rw [qualifiedName?, Option.filter_eq_some_iff, Text.splitOnce_eq_some_iff]
  simp only [Bool.and_eq_true, Bool.not_eq_true', ← Bool.not_eq_true, String.isEmpty_iff]
  constructor
  · rintro ⟨⟨htext, hdot⟩, htable, hcolumn⟩
    exact ⟨htext, hdot, htable, hcolumn⟩
  · rintro ⟨htext, hdot, htable, hcolumn⟩
    exact ⟨⟨htext, hdot⟩, htable, hcolumn⟩

/-- A name is qualified in one way only. -/
theorem Qualified.unique {name : String} {c c' : TableColumn} (h : Qualified name c)
    (h' : Qualified name c') : c = c' := by
  rw [← qualifiedName?_eq_some_iff] at h h'
  exact Option.some.inj (h.symm.trans h')

/-! ## Links -/

/-- A link equates columns of two different tables. -/
structure Link.Equates (l : Link) (left right : TableColumn) : Prop where
  source : Qualified l.source left
  target : Qualified l.target right
  differ : left.1 ≠ right.1

/-- A table is at an end of one of some links. -/
def IsLinked (links : List Link) (table : String) : Prop :=
  ∃ l ∈ links, ∃ column, Qualified l.source (table, column) ∨ Qualified l.target (table, column)

/-- A link fits behind other links if exactly one of its tables is linked by them. Nothing is asked of
the first link but that it has two tables. -/
def Link.Fits (before : List Link) (l : Link) : Prop :=
  ∃ left right, l.Equates left right ∧
    (before ≠ [] → (IsLinked before left.1 ↔ ¬ IsLinked before right.1))

/-- Every link fits behind those before it. -/
def Chained (links : List Link) : Prop :=
  ∀ before l after, links = before ++ l :: after → l.Fits before

section Links

variable {l : Link} {left right : TableColumn} {table : String}

/-- The ends of a link are found exactly if it equates columns of two tables. -/
theorem Link.ends_eq_ok_iff_equates : l.ends = .ok (left, right) ↔ l.Equates left right := by
  rw [Link.ends_eq_ok, qualifiedName?_eq_some_iff, qualifiedName?_eq_some_iff]
  constructor
  · rintro ⟨hsource, htarget, hdiffer⟩
    exact ⟨hsource, htarget, hdiffer⟩
  · rintro ⟨hsource, htarget, hdiffer⟩
    exact ⟨hsource, htarget, hdiffer⟩

/-- A link equates one pair of columns. -/
theorem Link.Equates.unique {left' right' : TableColumn} (h : l.Equates left right)
    (h' : l.Equates left' right') : left' = left ∧ right' = right :=
  ⟨h'.source.unique h.source, h'.target.unique h.target⟩

theorem isLinked_append {links links' : List Link} :
    IsLinked (links ++ links') table ↔ IsLinked links table ∨ IsLinked links' table := by
  simp only [IsLinked, List.mem_append, or_and_right, exists_or]

/-- A link links its two tables. -/
theorem Link.Equates.isLinked_iff (h : l.Equates left right) :
    IsLinked [l] table ↔ table = left.1 ∨ table = right.1 := by
  constructor
  · rintro ⟨l', hl', column, hsource | htarget⟩
    · rw [List.mem_singleton.1 hl'] at hsource
      exact .inl (congrArg Prod.fst (hsource.unique h.source))
    · rw [List.mem_singleton.1 hl'] at htarget
      exact .inr (congrArg Prod.fst (htarget.unique h.target))
  · rintro (rfl | rfl)
    · exact ⟨l, List.mem_singleton_self l, left.2, .inl h.source⟩
    · exact ⟨l, List.mem_singleton_self l, right.2, .inr h.target⟩

end Links

/-! ## Plans -/

/-- A join is made for a link behind others: it has the columns of the link, and brings the one table
of these that is not linked before. The first link brings its right table to its left one. -/
structure JoinStep.MadeFor (before : List Link) (l : Link) (step : JoinStep) : Prop where
  equates : l.Equates step.left step.right
  first : before = [] → step.table = step.right.1
  later : before ≠ [] → ∀ table, table = step.table ↔
    (table = step.left.1 ∨ table = step.right.1) ∧ ¬ IsLinked before table

/-- A link that comes after others makes one step. -/
theorem JoinStep.MadeFor.unique {before : List Link} {l : Link} {step step' : JoinStep}
    (h : step.MadeFor before l) (h' : step'.MadeFor before l) : step' = step := by
  obtain ⟨table, left, right⟩ := step
  obtain ⟨table', left', right'⟩ := step'
  obtain ⟨rfl, rfl⟩ := h.equates.unique h'.equates
  have htable : table' = table := by
    by_cases hnil : before = []
    · exact (h'.first hnil).trans (h.first hnil).symm
    · exact (h.later hnil table').2 ((h'.later hnil table').1 rfl)
  rw [htable]

namespace ViewPlan

/-- A plan spans some links: it starts from the left table of the first one, has a join for each, and
reads exactly the linked tables, each once. -/
structure Spans (p : ViewPlan) (links : List Link) : Prop where
  base : ∀ first rest, links = first :: rest → ∃ column, Qualified first.source (p.base, column)
  length : p.joins.length = links.length
  joins : ∀ before l after, links = before ++ l :: after →
    ∃ step, p.joins[before.length]? = some step ∧ step.MadeFor before l
  nodup : p.tables.Nodup
  tables : ∀ table, table ∈ p.tables ↔ IsLinked links table

variable {p q : ViewPlan} {links : List Link} {l : Link}

/-- A link spans its two tables. -/
theorem spans_singleton {left right : TableColumn} (h : l.Equates left right) :
    Spans ⟨left.1, [⟨right.1, left, right⟩]⟩ [l] where
  base := by
    rintro _ _ ⟨⟩
    exact ⟨left.2, h.source⟩
  length := rfl
  joins := by
    intro before l' after hlinks
    -- a list of one link is split in one way only
    obtain ⟨rfl, rfl, rfl⟩ : before = [] ∧ l' = l ∧ after = [] := by
      cases before with
      | nil => simpa [eq_comm] using hlinks
      | cons b before => simp at hlinks
    exact ⟨_, rfl, h, fun _ => rfl, fun hne => absurd rfl hne⟩
  nodup := by
    have hpair : [left.1, right.1].Nodup := by simpa using h.differ
    exact hpair
  tables := by
    intro table
    rw [h.isLinked_iff]
    simp [ViewPlan.tables]

/-- What a join brings to the planned tables is the table that is new to the links. -/
theorem Spans.madeFor (h : p.Spans links) (hne : links ≠ []) {left right : TableColumn}
    {table : String} (hends : l.Equates left right) (hbrings : Brings p.tables left right table) :
    JoinStep.MadeFor links l ⟨table, left, right⟩ where
  equates := hends
  first := fun hnil => absurd hnil hne
  later := by
    intro _ t
    rw [← h.tables]
    cases hbrings with
    | right hleft hright => grind
    | left hleft hright => grind

/-- One more link is spanned by one more join. -/
theorem Spans.extend (h : p.Spans links) (hne : links ≠ []) (hq : p.extend l = .ok q) :
    q.Spans (links ++ [l]) := by
  obtain ⟨left, right, table, hends, hbrings, rfl⟩ := extend_eq_ok.1 hq
  rw [Link.ends_eq_ok_iff_equates] at hends
  constructor
  · intro first rest hlinks
    obtain ⟨first', rest', rfl⟩ := List.exists_cons_of_ne_nil hne
    obtain ⟨rfl, -⟩ := List.cons.inj hlinks
    exact h.base first' rest' rfl
  · simp [joined, h.length]
  · intro before l' after hlinks
    -- the link is the last one, or one of those before
    rcases cut_of_append_singleton hlinks with ⟨rfl, rfl⟩ | ⟨rest, hlinks⟩
    · refine ⟨⟨table, left, right⟩, ?_, h.madeFor hne hends hbrings⟩
      simp [joined, ← h.length]
    · obtain ⟨step, hstep, hmade⟩ := h.joins before l' rest hlinks
      obtain ⟨hlt, -⟩ := List.getElem?_eq_some_iff.1 hstep
      exact ⟨step, (List.getElem?_append_left hlt).trans hstep, hmade⟩
  · rw [tables_joined, ← List.concat_eq_append]
    exact h.nodup.concat hbrings.not_mem
  · intro t
    rw [tables_joined, List.mem_append, h.tables, isLinked_append, hends.isLinked_iff,
      List.mem_singleton]
    -- the other table of the link is planned already
    cases hbrings with
    | right hleft _ =>
      have hlinked := (h.tables left.1).1 hleft
      grind
    | left _ hright =>
      have hlinked := (h.tables right.1).1 hright
      grind

/-- A plan takes another link exactly if that link fits to those it spans. -/
theorem Spans.exists_extend_iff (h : p.Spans links) (hne : links ≠ []) :
    (∃ q, p.extend l = .ok q) ↔ l.Fits links := by
  simp only [extend_eq_ok, Link.ends_eq_ok_iff_equates]
  constructor
  · rintro ⟨_, left, right, table, hends, hbrings, -⟩
    refine ⟨left, right, hends, fun _ => ?_⟩
    rw [← h.tables, ← h.tables]
    cases hbrings with
    | right hleft hright => exact iff_of_true hleft hright
    | left hleft hright => exact iff_of_false hleft fun hnew => hnew hright
  · rintro ⟨left, right, hends, hone⟩
    have hone := hone hne
    rw [← h.tables, ← h.tables] at hone
    by_cases hleft : left.1 ∈ p.tables
    · exact ⟨_, left, right, _, hends, .right hleft (hone.1 hleft), rfl⟩
    · have hright : right.1 ∈ p.tables := by
        by_contra hright
        exact hleft (hone.2 hright)
      exact ⟨_, left, right, _, hends, .left hleft hright, rfl⟩

variable {rest : List Link}

/-- Links that are taken one after the other are spanned with those before them. -/
theorem Spans.foldlM_extend (h : p.Spans links) (hne : links ≠ [])
    (hq : rest.foldlM ViewPlan.extend p = .ok q) : q.Spans (links ++ rest) := by
  induction rest generalizing p links with
  | nil =>
    cases hq
    rwa [List.append_nil]
  | cons l rest ih =>
    rw [List.foldlM_cons] at hq
    obtain ⟨p', hp', hq⟩ := bind_eq_ok.1 hq
    have hspans := ih (h.extend hne hp') (List.append_ne_nil_of_left_ne_nil hne [l]) hq
    rwa [List.append_assoc] at hspans

/-- Links are planned behind others exactly if each fits behind these and those before it. -/
theorem Spans.exists_foldlM_iff (h : p.Spans links) (hne : links ≠ []) (rest : List Link) :
    (∃ q, rest.foldlM ViewPlan.extend p = .ok q) ↔
      ∀ before l after, rest = before ++ l :: after → l.Fits (links ++ before) := by
  induction rest generalizing p links with
  | nil =>
    refine iff_of_true ⟨p, rfl⟩ fun before l after hrest => ?_
    simp at hrest
  | cons l rest ih =>
    rw [List.foldlM_cons]
    simp only [bind_eq_ok]
    constructor
    · rintro ⟨q, p', hp', hq⟩ before l' after hrest
      cases before with
      | nil =>
        obtain ⟨rfl, rfl⟩ := List.cons.inj hrest
        rw [List.append_nil]
        exact (h.exists_extend_iff hne).1 ⟨p', hp'⟩
      | cons b before =>
        obtain ⟨rfl, htail⟩ := List.cons.inj hrest
        -- the plan with this link spans one link more
        have hlater := ih (h.extend hne hp') (List.append_ne_nil_of_left_ne_nil hne [l])
        have hfits := hlater.1 ⟨q, hq⟩ before l' after htail
        rwa [List.append_assoc] at hfits
    · intro hfits
      have hl := hfits [] l rest rfl
      rw [List.append_nil] at hl
      obtain ⟨p', hp'⟩ := (h.exists_extend_iff hne).2 hl
      have hlater := ih (h.extend hne hp') (List.append_ne_nil_of_left_ne_nil hne [l])
      obtain ⟨q, hq⟩ := hlater.2 fun before l' after hrest => by
        rw [List.append_assoc]
        exact hfits (l :: before) l' after (by rw [hrest]; rfl)
      exact ⟨q, p', hp', hq⟩

/-- The step at a place is that of the link at the same place, made for the links before it. -/
theorem Spans.joins_getElem (h : p.Spans links) {k : ℕ} (hk : k < links.length) :
    ∃ step, p.joins[k]? = some step ∧ step.MadeFor (links.take k) links[k] := by
  have hcut : links = links.take k ++ links[k] :: links.drop (k + 1) := by
    rw [List.getElem_cons_drop, List.take_append_drop]
  have hstep := h.joins _ _ _ hcut
  rwa [List.length_take_of_le hk.le] at hstep

/-- The links determine the plan that spans them. -/
theorem Spans.unique (h : p.Spans links) (h' : q.Spans links) (hne : links ≠ []) : p = q := by
  obtain ⟨first, rest, rfl⟩ := List.exists_cons_of_ne_nil hne
  obtain ⟨column, hbase⟩ := h.base first rest rfl
  obtain ⟨column', hbase'⟩ := h'.base first rest rfl
  have hjoins : p.joins = q.joins := by
    refine List.ext_getElem (h.length.trans h'.length.symm) fun k hk hk' => ?_
    rw [h.length] at hk
    -- the join at a place is the one that is made for the link at this place
    obtain ⟨step, hstep, hmade⟩ := h.joins_getElem hk
    obtain ⟨step', hstep', hmade'⟩ := h'.joins_getElem hk
    rw [List.getElem_eq_iff, hstep, hmade'.unique hmade, ← hstep', List.getElem?_eq_getElem]
  cases p
  cases q
  rw [ViewPlan.mk.injEq]
  exact ⟨congrArg Prod.fst (hbase.unique hbase'), hjoins⟩

/-! ## Planning -/

theorem ofLinks_cons_eq_ok {first : Link} {fallback : List String} :
    ofLinks (first :: rest) fallback = .ok p ↔ ∃ left right, first.Equates left right ∧
      rest.foldlM ViewPlan.extend ⟨left.1, [⟨right.1, left, right⟩]⟩ = .ok p := by
  refine bind_eq_ok.trans ⟨?_, ?_⟩
  · rintro ⟨⟨left, right⟩, hends, hp⟩
    exact ⟨left, right, Link.ends_eq_ok_iff_equates.1 hends, hp⟩
  · rintro ⟨left, right, hends, hp⟩
    exact ⟨(left, right), Link.ends_eq_ok_iff_equates.2 hends, hp⟩

/-- A plan that is made of links spans them. -/
theorem spans_of_ofLinks {fallback : List String} (hne : links ≠ [])
    (h : ofLinks links fallback = .ok p) : p.Spans links := by
  obtain ⟨first, rest, rfl⟩ := List.exists_cons_of_ne_nil hne
  obtain ⟨left, right, hends, hp⟩ := ofLinks_cons_eq_ok.1 h
  exact (spans_singleton hends).foldlM_extend (List.cons_ne_nil first []) hp

/-- A chain of links can be planned, and nothing else. -/
theorem exists_ofLinks_iff {fallback : List String} (hne : links ≠ []) :
    (∃ p, ofLinks links fallback = .ok p) ↔ Chained links := by
  obtain ⟨first, rest, rfl⟩ := List.exists_cons_of_ne_nil hne
  have hlater {left right : TableColumn} (hends : first.Equates left right) :=
    (spans_singleton hends).exists_foldlM_iff (List.cons_ne_nil first []) rest
  constructor
  · rintro ⟨p, hp⟩ before l after hlinks
    obtain ⟨left, right, hends, hp⟩ := ofLinks_cons_eq_ok.1 hp
    -- the first link has nothing to fit to
    cases before with
    | nil =>
      obtain ⟨rfl, -⟩ := List.cons.inj hlinks
      exact ⟨left, right, hends, fun hnil => absurd rfl hnil⟩
    | cons b before =>
      obtain ⟨rfl, htail⟩ := List.cons.inj hlinks
      exact (hlater hends).1 ⟨p, hp⟩ before l after htail
  · intro hchained
    obtain ⟨left, right, hends, -⟩ := hchained [] first rest rfl
    obtain ⟨p, hp⟩ := (hlater hends).2 fun before l after htail =>
      hchained (first :: before) l after (congrArg (first :: ·) htail)
    exact ⟨p, ofLinks_cons_eq_ok.2 ⟨left, right, hends, hp⟩⟩

/-- Without links, a view reads the only table that is named. -/
theorem ofLinks_nil_eq_ok {fallback : List String} : ofLinks [] fallback = .ok p ↔
    p.joins = [] ∧ p.base ∈ fallback ∧ ∀ table ∈ fallback, table = p.base := by
  have hnamed (table : String) : Text.firstOccurrences fallback = [table] ↔
      table ∈ fallback ∧ ∀ t ∈ fallback, t = table := by
    rw [eq_comm, Text.eq_firstOccurrences_iff]
    simp only [List.nodup_singleton, List.mem_singleton, List.pairwise_singleton, true_and,
      and_true]
    grind
  obtain ⟨base, joins⟩ := p
  rw [← hnamed, ofLinks, planWithoutLinks]
  split
  next table hfound => simp [hfound, eq_comm, and_comm]
  next hfound => simp [hfound]
  next hone hfound => simpa using fun _ => hone base

/-- A view with links is planned exactly if these are a chain, and by the plan that spans them. One
without links is planned exactly if one table is named, and reads this. -/
theorem ofLinks_accepts_exactly (fallback : List String) :
    (∀ first rest, ((∃ p, ofLinks (first :: rest) fallback = .ok p) ↔ Chained (first :: rest)) ∧
      ∀ p, ofLinks (first :: rest) fallback = .ok p ↔
        Chained (first :: rest) ∧ p.Spans (first :: rest)) ∧
    ((∃ p, ofLinks [] fallback = .ok p) ↔
      ∃ table ∈ fallback, ∀ other ∈ fallback, other = table) ∧
    ∀ p, ofLinks [] fallback = .ok p ↔
      p.joins = [] ∧ p.base ∈ fallback ∧ ∀ other ∈ fallback, other = p.base := by
  refine ⟨fun first rest => ?_, ⟨?_, ?_⟩, fun p => ofLinks_nil_eq_ok⟩
  · have hne := List.cons_ne_nil first rest
    refine ⟨exists_ofLinks_iff hne, fun p => ⟨fun hp => ?_, fun ⟨hchained, hspans⟩ => ?_⟩⟩
    · exact ⟨(exists_ofLinks_iff hne).1 ⟨p, hp⟩, spans_of_ofLinks hne hp⟩
    · obtain ⟨q, hq⟩ := (exists_ofLinks_iff hne).2 hchained
      rwa [hspans.unique (spans_of_ofLinks hne hq) hne]
  · rintro ⟨p, hp⟩
    exact ⟨p.base, (ofLinks_nil_eq_ok.1 hp).2⟩
  · rintro ⟨table, htable, hothers⟩
    exact ⟨⟨table, []⟩, ofLinks_nil_eq_ok.2 ⟨rfl, htable, hothers⟩⟩

/-- A link may name its new table first. -/
example : ofLinks [⟨none, none, "orders.customer", "customers.id"⟩,
      ⟨none, none, "items.order", "orders.id"⟩] [] =
    .ok ⟨"orders", [⟨"customers", ("orders", "customer"), ("customers", "id")⟩,
      ⟨"items", ("items", "order"), ("orders", "id")⟩]⟩ := by
  decide

end ViewPlan

end DatasetSql
