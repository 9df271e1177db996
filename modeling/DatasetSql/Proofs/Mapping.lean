import DatasetSql.Edit.Mapping
import DatasetSql.Proofs.Outcome
import Mathlib.Data.List.Nodup

/-!
# Accepted mappings

What is known of a mapping once it has been read: its keys differ, and every target is a table, a
call of a table function or a derived table, so it has a place for an alias.
-/

namespace DatasetSql.TableMapping

open Statement

/-- Tables, calls of table functions and derived tables: the relations that carry an alias. -/
def HasAlias (r : Relation) : Prop :=
  (∃ name isCall detail a tail, r = .table name isCall detail a tail) ∨
    ∃ lateral q a, r = .derived lateral q a

/-- What reading makes sure of. -/
structure Accepted (entries : List (String × MappingTarget)) : Prop where
  nodup : (entries.map Prod.fst).Nodup
  hasAlias : ∀ e ∈ entries, HasAlias e.2.factor

/-- What a value can be read as. -/
theorem form_of_readTarget {value : String} {d : Option Dialect} {t : MappingTarget}
    (h : readTarget value d = .ok t) :
    (∃ name isCall detail a tail, t = .relation (.table name isCall detail a tail)) ∨
      ∃ lateral q a, t = .subquery (.derived lateral q a) := by
  unfold readTarget at h
  split at h
  · exact nomatch h
  split at h
  · cases h
    exact .inl ⟨_, _, _, _, _, rfl⟩
  · split at h
    · exact nomatch h
    · split at h
      · cases h
        exact .inr ⟨_, _, _, rfl⟩
      · exact absurd h (by simp)
    · exact nomatch h
    · exact nomatch h

/-- Whatever a target is read as has an alias. -/
theorem hasAlias_of_readTarget {value : String} {d : Option Dialect} {t : MappingTarget}
    (h : readTarget value d = .ok t) : HasAlias t.factor := by
  obtain ⟨_, _, _, _, _, rfl⟩ | ⟨_, _, _, rfl⟩ := form_of_readTarget h
  · exact .inl ⟨_, _, _, _, _, rfl⟩
  · exact .inr ⟨_, _, _, rfl⟩

/-- An entry that is read has a key that was not there before, and its target reads no other key. -/
theorem readEntry_ok {d : Option Dialect} {earlier keys : List String} {key value : String}
    {t : MappingTarget} (h : readEntry d earlier keys key value = .ok t) :
    key ∉ earlier ∧ readTarget value d = .ok t ∧
      ∀ name ∈ targetReads t, name ≠ key → name ∉ keys := by
  unfold readEntry at h
  dsimp only at h
  split at h
  · exact nomatch h
  split at h
  · exact nomatch h
  next hfresh =>
    obtain ⟨t', ht, h⟩ := bind_eq_ok.1 h
    split at h
    · exact absurd h (by simp)
    next hfind =>
      cases h
      refine ⟨by simpa using hfresh, mapError_eq_ok.1 ht, fun name hname hne hmem => ?_⟩
      have hnot := List.find?_eq_none.1 hfind name hname
      simp [hne, hmem] at hnot

/-- Entries that are read have different keys, none of which was there before, and targets with an
alias. -/
theorem readEntries_ok {d : Option Dialect} {keys : List String} {earlier : List String}
    {entries : List (String × String)} {out : List (String × MappingTarget)}
    (h : readEntries d keys earlier entries = .ok out) :
    Accepted out ∧ ∀ e ∈ out, e.1 ∉ earlier := by
  induction entries generalizing earlier out with
  | nil =>
    cases h
    exact ⟨⟨List.nodup_nil, fun e he => nomatch he⟩, fun e he => nomatch he⟩
  | cons entry entries ih =>
    obtain ⟨key, value⟩ := entry
    obtain ⟨t, ht, h⟩ := bind_eq_ok.1 h
    obtain ⟨rest, hrest, h⟩ := bind_eq_ok.1 h
    cases h
    obtain ⟨hkey, htarget, -⟩ := readEntry_ok ht
    -- the entries after this one were read with its key among the earlier ones
    obtain ⟨hacc, hfresh⟩ := ih hrest
    have hnot : ∀ e ∈ rest, e.1 ∉ earlier ∧ e.1 ≠ key := by
      intro e he
      simpa [not_or] using hfresh e he
    refine ⟨⟨?_, ?_⟩, ?_⟩
    · rw [List.map_cons, List.nodup_cons]
      refine ⟨fun hmem => ?_, hacc.nodup⟩
      obtain ⟨e, he, heq⟩ := List.mem_map.1 hmem
      exact (hnot e he).2 heq
    · intro e he
      rcases List.mem_cons.1 he with rfl | he
      · exact hasAlias_of_readTarget htarget
      · exact hacc.hasAlias e he
    · intro e he
      rcases List.mem_cons.1 he with rfl | he
      · exact hkey
      · exact (hnot e he).1

/-- Entries are read with their keys, and each target from a value; none reads another key. -/
theorem targets_of_readEntries {d : Option Dialect} {keys earlier : List String}
    {entries : List (String × String)} {out : List (String × MappingTarget)}
    (h : readEntries d keys earlier entries = .ok out) :
    out.map Prod.fst = entries.map Prod.fst ∧ ∀ e ∈ out,
      (∃ value, readTarget value d = .ok e.2) ∧
        ∀ name ∈ targetReads e.2, name ≠ e.1 → name ∉ keys := by
  induction entries generalizing earlier out with
  | nil =>
    cases h
    exact ⟨rfl, nofun⟩
  | cons entry entries ih =>
    obtain ⟨key, value⟩ := entry
    obtain ⟨t, ht, h⟩ := bind_eq_ok.1 h
    obtain ⟨rest, hrest, h⟩ := bind_eq_ok.1 h
    cases h
    obtain ⟨-, htarget, hreads⟩ := readEntry_ok ht
    obtain ⟨hkeys, hall⟩ := ih hrest
    exact ⟨congrArg (key :: ·) hkeys, List.forall_mem_cons.2 ⟨⟨⟨value, htarget⟩, hreads⟩, hall⟩⟩

/-- A mapping that is read is accepted. -/
theorem accepted_of_read {entries : List (String × String)} {d : Option Dialect}
    {m : TableMapping} (h : read entries d = .ok m) : Accepted m.entries := by
  obtain ⟨out, hout, h⟩ := bind_eq_ok.1 h
  cases h
  exact (readEntries_ok hout).1

/-- What a name stands for is said by the only entry with that name. -/
theorem get?_eq_some_iff {m : TableMapping} (hm : Accepted m.entries) {name : String}
    {t : MappingTarget} : m.get? name = some t ↔ (name, t) ∈ m.entries := by
  unfold get?
  have hnodup := hm.nodup
  generalize m.entries = entries at hnodup
  induction entries with
  | nil => simp
  | cons e entries ih =>
    obtain ⟨key, target⟩ := e
    rw [List.map_cons, List.nodup_cons] at hnodup
    rw [List.lookup_cons, List.mem_cons, Prod.mk.injEq]
    by_cases hkey : name = key
    · subst hkey
      have hrest : (name, t) ∉ entries := fun hmem =>
        hnodup.1 (List.mem_map.2 ⟨(name, t), hmem, rfl⟩)
      simp [hrest, eq_comm]
    · rw [beq_eq_false_iff_ne.2 hkey]
      simp [hkey, ih hnodup.2]

end DatasetSql.TableMapping
