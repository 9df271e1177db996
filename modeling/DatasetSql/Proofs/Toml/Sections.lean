import DatasetSql.Proofs.Toml.Inline

/-!
# Sections fill a document

The sections of a value add one key with that value to the table around it, whatever else the table
holds. Seen from the document, the same sections stand below the path of that table.
-/

namespace DatasetSql.Toml

open Json (orderedFields_congr)

/-! ## One key of a table -/

section Concat

variable {α : Type} {k : String} {entries : List (String × α)}

theorem lookup_concat (h : k ∉ entries.map (·.1)) (n : α) :
    (entries ++ [(k, n)]).lookup k = some n := by
  rw [List.lookup_append, Json.lookup_of_notMem h]
  simp

theorem put_concat (h : k ∉ entries.map (·.1)) (n n' : α) :
    Json.put k n' (entries ++ [(k, n)]) = entries ++ [(k, n')] := by
  induction entries with
  | nil => simp [Json.put]
  | cons e entries ih =>
    obtain ⟨k', v⟩ := e
    simp only [List.map_cons, List.mem_cons, not_or] at h
    have hne : ¬ (k' == k) = true := by simpa using Ne.symm h.1
    rw [List.cons_append, Json.put, if_neg hne, ih h.2]
    rfl

end Concat

/-- A section, seen from further outside. -/
def Section.under (path : List String) (s : Section) : Section := { s with path := path ++ s.path }

/-- A section that is put under two paths is put under both, the outer one first. -/
theorem Section.under_under (path path' : List String) (s : Section) :
    (s.under path').under path = s.under (path ++ path') := by
  simp [Section.under]

/-- What a key stands for while sections below it are read: a table, or the last table of a list. -/
inductive Wraps : (Entries → Node) → Prop where
  | table (origin : Origin) : Wraps (.table origin)
  | list (earlier : List Entries) : Wraps fun inner => .list (inner :: earlier)

variable {k : String} {entries : Entries}

/-- A section changes a table alike, however the table came to be. -/
theorem update_define (s : Section) (path : List String) (origin origin' : Origin)
    (inner : Entries) :
    update false s.define path origin inner = update false s.define path origin' inner := by
  cases path <;> rfl

/-- A section below the last key changes what that key stands for. -/
theorem addTo_under {wrap : Entries → Node} (hwrap : Wraps wrap) (hk : k ∉ entries.map (·.1))
    (inner : Entries) (s : Section) :
    Section.addTo (entries ++ [(k, wrap inner)]) (s.under [k]) =
      (Section.addTo inner s).map fun inner => entries ++ [(k, wrap inner)] := by
  show update false s.define (k :: s.path) .header (entries ++ [(k, wrap inner)]) = _
  rw [update, lookup_concat hk]
  -- in a list, it is the last table that is changed
  cases hwrap with
  | table origin =>
    show ((update false s.define s.path origin inner).bind fun inner' =>
      some (Json.put k (.table origin inner') (entries ++ [(k, .table origin inner)]))) = _
    rw [update_define s s.path origin .header, Section.addTo]
    simp only [put_concat hk]
    cases update false s.define s.path .header inner <;> rfl
  | list earlier =>
    show ((update false s.define s.path .header inner).bind fun inner' =>
      some (Json.put k (.list (inner' :: earlier)) (entries ++ [(k, .list (inner :: earlier))]))) = _
    rw [Section.addTo]
    simp only [put_concat hk]
    cases update false s.define s.path .header inner <;> rfl

/-- Sections below the last key change what that key stands for. -/
theorem foldlM_under {wrap : Entries → Node} (hwrap : Wraps wrap) (hk : k ∉ entries.map (·.1))
    (inner : Entries) (secs : List Section) :
    (secs.map (·.under [k])).foldlM Section.addTo (entries ++ [(k, wrap inner)]) =
      (secs.foldlM Section.addTo inner).map fun inner => entries ++ [(k, wrap inner)] := by
  induction secs generalizing inner with
  | nil => rfl
  | cons s secs ih =>
    rw [List.map_cons, List.foldlM_cons, List.foldlM_cons, addTo_under hwrap hk]
    cases Section.addTo inner s with
    | none => rfl
    | some inner' => exact ih inner'

/-- Sections below a key that is not there make a table for it. -/
theorem foldlM_under_new (hk : k ∉ entries.map (·.1)) {secs : List Section} (hne : secs ≠ []) :
    (secs.map (·.under [k])).foldlM Section.addTo entries =
      (secs.foldlM Section.addTo []).map fun inner => entries ++ [(k, .table .implied inner)] := by
  obtain ⟨s, secs, rfl⟩ := List.exists_cons_of_ne_nil hne
  -- the first section makes the table, which no header has defined
  have hfirst : Section.addTo entries (s.under [k]) =
      (Section.addTo [] s).map fun inner => entries ++ [(k, .table .implied inner)] := by
    show update false s.define (k :: s.path) .header entries = _
    rw [update, Json.lookup_of_notMem hk, Section.addTo, update_define s s.path .header .implied]
    show ((update false s.define s.path .implied []).bind fun inner =>
      some (entries ++ [(k, .table .implied inner)])) = _
    cases update false s.define s.path .implied [] <;> rfl
  rw [List.map_cons, List.foldlM_cons, List.foldlM_cons, hfirst]
  cases Section.addTo [] s with
  | none => rfl
  | some inner => exact foldlM_under (.table .implied) hk inner secs

/-- A header makes a table for a key that is not there. -/
theorem addTo_header (hk : k ∉ entries.map (·.1)) (as : List Assignment) :
    Section.addTo entries ⟨false, [], k, as⟩ =
      (assignAll [] as).map fun inner => entries ++ [(k, .table .header inner)] := by
  show Section.define ⟨false, [], k, as⟩ .header entries = _
  unfold Section.define
  simp only [Json.lookup_of_notMem hk, Json.put_of_notMem hk]
  cases assignAll [] as <;> rfl

/-- A table with a list of tables, the last one first, unless there is none yet. -/
def withList (entries : Entries) (k : String) : List Entries → Entries
  | [] => entries
  | elements => entries ++ [(k, .list elements)]

/-- A header of a list adds a table to it. -/
theorem addTo_repeated (hk : k ∉ entries.map (·.1)) (earlier : List Entries)
    (as : List Assignment) :
    Section.addTo (withList entries k earlier) ⟨true, [], k, as⟩ =
      (assignAll [] as).map fun inner => withList entries k (inner :: earlier) := by
  show Section.define ⟨true, [], k, as⟩ .header (withList entries k earlier) = _
  unfold Section.define
  cases earlier with
  | nil =>
    simp only [withList, Json.lookup_of_notMem hk, Json.put_of_notMem hk]
    cases assignAll [] as <;> rfl
  | cons last earlier =>
    simp only [withList, lookup_concat hk, put_concat hk]
    cases assignAll [] as <;> rfl

/-! ## What sections add -/

/-- A node has the key of an entry and, but for the order of keys, its value. -/
def Holds (n : String × Node) (e : String × Json.Value) : Prop :=
  n.1 = e.1 ∧ n.2.value.data = e.2.ordered.data

/-- Sections add an entry to every table that does not have its key. -/
def Adds (secs : List Section) (e : String × Json.Value) : Prop :=
  ∀ entries : Entries, e.1 ∉ entries.map (·.1) →
    ∃ n, Holds n e ∧ secs.foldlM Section.addTo entries = some (entries ++ [n])

/-- Sections add entries to every table that has none of their keys. -/
def Fills (secs : List Section) (es : List (String × Json.Value)) : Prop :=
  ∀ entries : Entries, (entries.map (·.1) ++ es.map (·.1)).Nodup →
    ∃ ns, List.Forall₂ Holds ns es ∧ secs.foldlM Section.addTo entries = some (entries ++ ns)

theorem Fills.nil : Fills [] [] := fun entries _ => ⟨[], .nil, by simp⟩

/-- Sections that add an entry come before those that fill the rest. -/
theorem Adds.cons {secs secs' : List Section} {e : String × Json.Value}
    {es : List (String × Json.Value)} (h : Adds secs e) (h' : Fills secs' es) :
    Fills (secs ++ secs') (e :: es) := by
  intro entries hnodup
  have hnew : e.1 ∉ entries.map (·.1) := fun hmem =>
    (List.nodup_append.1 hnodup).2.2 _ hmem _ List.mem_cons_self rfl
  obtain ⟨n, hn, hfold⟩ := h entries hnew
  -- the entry that was added keeps the other keys new
  have hrest : ((entries ++ [n]).map (·.1) ++ es.map (·.1)).Nodup := by simpa [hn.1] using hnodup
  obtain ⟨ns, hns, hfolds⟩ := h' (entries ++ [n]) hrest
  refine ⟨n :: ns, .cons hn hns, ?_⟩
  rw [List.foldlM_append, hfold, Option.bind_eq_bind, Option.bind_some, hfolds]
  simp

theorem Adds.ne_nil {secs : List Section} {e : String × Json.Value} (h : Adds secs e) :
    secs ≠ [] := by
  rintro rfl
  obtain ⟨n, -, hfold⟩ := h [] List.not_mem_nil
  exact nomatch hfold

/-- A table with entries is not filled without a section. -/
theorem Fills.ne_nil {secs : List Section} {es : List (String × Json.Value)} (h : Fills secs es)
    (hnodup : (es.map (·.1)).Nodup) (hne : es ≠ []) : secs ≠ [] := by
  rintro rfl
  obtain ⟨ns, hns, hfold⟩ := h [] hnodup
  cases hfold
  cases hns
  exact hne rfl

/-- Assignments and the sections below them make a table of an object. -/
def Makes (as : List Assignment) (secs : List Section) (es : List (String × Json.Value)) : Prop :=
  ∃ inner entries, assignAll [] as = some inner ∧ secs.foldlM Section.addTo inner = some entries ∧
    (Value.table (valueEntries entries)).data = (Json.Value.object es).ordered.data

/-- The entries with sections and those without make a table together. -/
theorem Fills.makes {as : List Assignment} {secs : List Section} {es : List (String × Json.Value)}
    (has : List.Forall₂ Assigns as (es.filter fun e => !hasSections e.2))
    (h : Fills secs (es.filter fun e => hasSections e.2)) (hnodup : (es.map (·.1)).Nodup) :
    Makes as secs es := by
  -- a table is written as its leaves first, so its entries are reordered
  have hperm : (es.filter (fun e => !hasSections e.2) ++
      es.filter fun e => hasSections e.2).Perm es :=
    List.perm_append_comm.trans (List.filter_append_perm _ es)
  have hkeys := ((hperm.map (·.1)).nodup_iff).2 hnodup
  rw [List.map_append] at hkeys
  have hleaves : (leaves as).map (·.1) = (es.filter fun e => !hasSections e.2).map (·.1) := by
    rw [← Assigns.keys has, leaves, List.map_map]
    rfl
  obtain ⟨ns, hns, hfold⟩ := h (leaves as) (by rw [hleaves]; exact hkeys)
  refine ⟨leaves as, leaves as ++ ns, assignAll_of_assigns has (List.nodup_append.1 hkeys).1,
    hfold, ?_⟩
  have hvalues : List.Forall₂ (fun t e => t.1 = e.1 ∧ t.2.data = e.2.ordered.data)
      (valueEntries (leaves as ++ ns))
      (es.filter (fun e => !hasSections e.2) ++ es.filter fun e => hasSections e.2) := by
    rw [valueEntries_eq_map, List.map_append, ← valueEntries_eq_map]
    refine List.rel_append (Assigns.values has) ?_
    rw [List.forall₂_map_left_iff]
    exact hns
  have hdata := dataEntries_of_forall₂ hvalues
  rw [← orderedFields_congr hperm.symm hnodup] at hdata
  exact congrArg Json.Data.record hdata

variable {as : List Assignment} {secs : List Section} {es : List (String × Json.Value)}

/-- A header with its assignments, and the sections under it, add a table. -/
theorem Makes.header (h : Makes as secs es) (k : String) :
    Adds (⟨false, [], k, as⟩ :: secs.map (·.under [k])) (k, .object es) := by
  intro entries hk
  obtain ⟨inner, inner', has, hfold, hdata⟩ := h
  refine ⟨(k, .table .header inner'), ⟨rfl, hdata⟩, ?_⟩
  rw [List.foldlM_cons, addTo_header hk, has]
  show (secs.map (·.under [k])).foldlM Section.addTo (entries ++ [(k, .table .header inner)]) = _
  rw [foldlM_under (.table .header) hk, hfold]
  rfl

/-- Sections under a key add a table to it, also without a header of its own. -/
theorem Makes.implied (h : Makes [] secs es) (hne : secs ≠ []) (k : String) :
    Adds (secs.map (·.under [k])) (k, .object es) := by
  intro entries hk
  obtain ⟨inner, inner', has, hfold, hdata⟩ := h
  refine ⟨(k, .table .implied inner'), ⟨rfl, hdata⟩, ?_⟩
  cases has
  rw [foldlM_under_new hk hne, hfold]
  rfl

/-- Sections add tables to a list of tables. -/
def Extends (secs : List Section) (k : String) (xs : List Json.Value) : Prop :=
  ∀ entries : Entries, k ∉ entries.map (·.1) → ∀ earlier : List Entries,
    ∃ later, secs.foldlM Section.addTo (withList entries k earlier) =
        some (withList entries k (later ++ earlier)) ∧
      dataItems (valueElements later).reverse = Json.dataItems (Json.orderedItems xs)

theorem Extends.nil (k : String) : Extends [] k [] := fun _ _ _ => ⟨[], rfl, rfl⟩

theorem valueElements_eq_map (elements : List Entries) :
    valueElements elements = elements.map fun e => .table (valueEntries e) := by
  induction elements with
  | nil => rfl
  | cons e elements ih => rw [valueElements, ih, List.map_cons]

/-- A repeated header with what stands under it adds a table to an array. -/
theorem Makes.cons (h : Makes as secs es) {k : String} {secs' : List Section}
    {xs : List Json.Value} (h' : Extends secs' k xs) :
    Extends (⟨true, [], k, as⟩ :: secs.map (·.under [k]) ++ secs') k (.object es :: xs) := by
  intro entries hk earlier
  obtain ⟨inner, inner', has, hfold, hdata⟩ := h
  obtain ⟨later, hlater, hitems⟩ := h' entries hk (inner' :: earlier)
  refine ⟨later ++ [inner'], ?_, ?_⟩
  · rw [List.foldlM_append, List.foldlM_cons, addTo_repeated hk, has]
    show ((secs.map (·.under [k])).foldlM Section.addTo
      (entries ++ [(k, .list (inner :: earlier))])).bind (secs'.foldlM Section.addTo) = _
    rw [foldlM_under (.list earlier) hk, hfold]
    show secs'.foldlM Section.addTo (withList entries k (inner' :: earlier)) = _
    -- the tables of a list are held last first
    rw [hlater, List.append_assoc, List.singleton_append]
  · rw [valueElements_eq_map] at hitems ⊢
    rw [List.map_append, List.reverse_append, Json.orderedItems, Json.dataItems, ← hitems, ← hdata]
    rfl

/-- Tables that extend nothing make a new array. -/
theorem Extends.adds {secs : List Section} {k : String} {xs : List Json.Value}
    (h : Extends secs k xs) (hne : xs ≠ []) : Adds secs (k, .array xs) := by
  intro entries hk
  obtain ⟨later, hfold, hdata⟩ := h entries hk []
  refine ⟨(k, .list later), ⟨rfl, congrArg Json.Data.list hdata⟩, ?_⟩
  cases later with
  | nil =>
    obtain ⟨x, xs, rfl⟩ := List.exists_cons_of_ne_nil hne
    exact nomatch hdata
  | cons last earlier =>
    rw [List.append_nil] at hfold
    exact hfold

end DatasetSql.Toml
