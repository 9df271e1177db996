import DatasetSql.Proofs.MarkerOrder
import DatasetSql.Proofs.Restoring
import Mathlib.Data.List.Infix

/-!
# Putting parameter markers away and back

A word is put in place of a marker, and later the marker in place of the word. The word is found where
the marker was, but it may also be found further left: it can begin in the text and end in the copy of
it that was put behind. If word and marker have no character in common, it is found there exactly if
the text has a *decoy*: the word, or an opening of the word with the marker behind
(`Text.prefix_replaceFrom_iff_decoy`). So the text comes back exactly if it has none
(`Template.apart_cut_iff`).

The inert name begins and ends in three underscores, and so has three openings. A text is transparent
if it has neither the inert name nor one of these with a marker behind; then, and only then, nothing
but its markers is changed (`Conversion.convertSql_transparent_iff`).
-/

namespace DatasetSql.Text

variable {m p : List Char}

/-- What an occurrence at the start of a text leaves of it. -/
theorem drop_of_append_eq_cons {c : Char} {cs rest : List Char} (hm : m ≠ [])
    (h : m ++ rest = c :: cs) : cs.drop (m.length - 1) = rest := by
  obtain ⟨a, m, rfl⟩ := List.exists_cons_of_ne_nil hm
  rw [← (List.cons.inj h).2]
  exact List.drop_left

/-- A pattern replaced by itself changes nothing. -/
theorem replaceFrom_self (hm : m ≠ []) (cs : List Char) (skip : Nat) :
    replaceFrom m m skip cs = cs.drop skip := by
  induction cs generalizing skip with
  | nil => rw [replaceFrom, List.drop_nil]
  | cons c cs ih =>
    cases skip with
    | succ skip => exact ih skip
    | zero =>
      rw [replaceFrom]
      split
      next hstart =>
        obtain ⟨rest, hrest⟩ := List.isPrefixOf_iff_prefix.1 hstart
        rw [ih, drop_of_append_eq_cons hm hrest, hrest, List.drop_zero]
      next => rw [ih, List.drop_zero, List.drop_zero]

/-! ## Openings and decoys -/

/-- The proper beginnings of a word that a copy of the word completes: what is left of the word is a
beginning of it, too. -/
def openings (p : List Char) : List (List Char) :=
  p.inits.filter fun u => u ≠ [] ∧ u ≠ p ∧ p.drop u.length <+: p

/-- The openings of a pattern are the parts of it that it starts with and ends in. -/
theorem mem_openings {u : List Char} :
    u ∈ openings p ↔ u ≠ [] ∧ u ≠ p ∧ ∃ v, p = u ++ v ∧ v <+: p := by
  rw [openings, List.mem_filter, List.mem_inits, decide_eq_true_eq]
  constructor
  · rintro ⟨⟨v, hv⟩, hnil, hproper, hrest⟩
    refine ⟨hnil, hproper, v, hv.symm, ?_⟩
    rwa [← hv, List.drop_left, hv] at hrest
  · rintro ⟨hnil, hproper, v, hv, hrest⟩
    have hdrop : p.drop u.length = v := by rw [hv, List.drop_left]
    exact ⟨⟨v, hv.symm⟩, hnil, hproper, by rwa [hdrop]⟩

/-- What a word is found at, besides a marker, once it is put in place of the marker. -/
def decoys (m p : List Char) : List (List Char) := p :: (openings p).map (· ++ m)

/-- A decoy starts as the pattern does. -/
theorem head?_of_mem_decoys {x : List Char} (hx : x ∈ decoys m p) : x.head? = p.head? := by
  rcases List.mem_cons.1 hx with rfl | hx
  · rfl
  · obtain ⟨u, hu, rfl⟩ := List.mem_map.1 hx
    obtain ⟨hnil, -, v, hv, -⟩ := mem_openings.1 hu
    rw [List.head?_append_of_ne_nil u hnil, hv, List.head?_append_of_ne_nil u hnil]

theorem not_cons_prefix_append {a : Char} {w ys zs : List Char} (hne : ys ≠ []) (ha : a ∉ ys) :
    ¬ a :: w <+: ys ++ zs := by
  obtain ⟨y, ys, rfl⟩ := List.exists_cons_of_ne_nil hne
  rw [List.cons_append, List.cons_prefix_cons]
  rintro ⟨rfl, -⟩
  exact ha List.mem_cons_self

/-- An end of the word begins the text with the word in place of the marker, exactly if it begins the
text before, or a part of it stands there up to a marker and the rest is a beginning of the word. -/
theorem prefix_replaceFrom_iff (hm : m ≠ []) (hmp : m.Disjoint p) {w : List Char} (hw : w <:+ p)
    (cs : List Char) : w <+: replaceFrom m p 0 cs ↔
      w <+: cs ∨ ∃ u v, w = u ++ v ∧ v <+: p ∧ u ++ m <+: cs := by
  -- what is left to be found is an end of the word, so the first copy of the word covers it
  induction w generalizing cs with
  | nil => exact iff_of_true List.nil_prefix (.inl List.nil_prefix)
  | cons a w ih =>
    have ha : a ∉ m := fun hmem => hmp hmem (hw.subset List.mem_cons_self)
    by_cases hstart : m <+: cs
    · -- the copy is put here
      obtain ⟨rest, rfl⟩ := hstart
      have hput : a :: w <+: p ++ replaceFrom m p 0 rest ↔ a :: w <+: p :=
        ⟨fun h => List.prefix_of_prefix_length_le h (List.prefix_append p _) hw.length_le,
          fun h => h.trans (List.prefix_append p _)⟩
      rw [Template.replaceFrom_occurrence _ _ hm, hput]
      constructor
      · exact fun h => .inr ⟨[], a :: w, rfl, h, List.prefix_append m rest⟩
      · rintro (h | ⟨u, v, huv, hv, hu⟩)
        · exact absurd h (not_cons_prefix_append hm ha)
        · cases u with
          | nil => rwa [huv]
          | cons b u =>
            rw [List.cons_append, List.cons.injEq] at huv
            rw [List.cons_append, ← huv.1] at hu
            exact absurd hu (not_cons_prefix_append hm ha)
    · cases cs with
      | nil =>
        rw [replaceFrom]
        simp [hm]
      | cons c cs =>
        rw [replaceFrom_cons hstart, List.cons_prefix_cons, List.cons_prefix_cons,
          ih ((List.suffix_cons a w).trans hw)]
        constructor
        · rintro ⟨rfl, h | ⟨u, v, rfl, hv, hu⟩⟩
          · exact .inl ⟨rfl, h⟩
          · exact .inr ⟨a :: u, v, rfl, hv, List.cons_prefix_cons.2 ⟨rfl, hu⟩⟩
        · rintro (⟨rfl, h⟩ | ⟨u, v, huv, hv, hu⟩)
          · exact ⟨rfl, .inl h⟩
          · cases u with
            | nil => exact absurd hu hstart
            | cons b u =>
              obtain ⟨rfl, rfl⟩ := List.cons.inj huv
              rw [List.cons_append, List.cons_prefix_cons] at hu
              exact ⟨hu.1, .inr ⟨u, v, rfl, hv, hu.2⟩⟩

/-- Where no marker stands, the word begins afterwards exactly if a decoy began before. -/
theorem prefix_replaceFrom_iff_decoy (hm : m ≠ []) (hmp : m.Disjoint p) {cs : List Char}
    (hstart : ¬ m <+: cs) : p <+: replaceFrom m p 0 cs ↔ ∃ x ∈ decoys m p, x <+: cs := by
  rw [prefix_replaceFrom_iff hm hmp List.suffix_rfl]
  constructor
  · rintro (h | ⟨u, v, huv, hv, hu⟩)
    · exact ⟨p, List.mem_cons_self, h⟩
    · by_cases hproper : u = p
      · exact ⟨p, List.mem_cons_self, hproper ▸ (List.prefix_append u m).trans hu⟩
      · have hnil : u ≠ [] := by
          rintro rfl
          exact hstart hu
        have hopening : u ∈ openings p := mem_openings.2 ⟨hnil, hproper, v, huv, hv⟩
        exact ⟨u ++ m, List.mem_cons_of_mem p (List.mem_map_of_mem hopening), hu⟩
  · rintro ⟨x, hx, hbegins⟩
    rcases List.mem_cons.1 hx with rfl | hx
    · exact .inl hbegins
    · obtain ⟨u, hu, rfl⟩ := List.mem_map.1 hx
      obtain ⟨-, -, v, huv, hv⟩ := mem_openings.1 hu
      exact .inr ⟨u, v, huv, hv, hbegins⟩

/-- What starts with a character outside of the first part stands in the second one. -/
theorem infix_append_iff {a : Char} {w ys zs : List Char} (ha : a ∉ ys) :
    a :: w <:+: ys ++ zs ↔ a :: w <:+: zs := by
  induction ys with
  | nil => rfl
  | cons y ys ih =>
    rw [List.mem_cons, not_or] at ha
    rw [List.cons_append, List.infix_cons_iff, List.cons_prefix_cons, ih ha.2]
    exact or_iff_right fun h => ha.1 h.1

/-- No decoy begins in a marker. -/
theorem decoy_infix_append_iff (hp : p ≠ []) (hmp : m.Disjoint p) {x : List Char}
    (hx : x ∈ decoys m p) (rest : List Char) : x <:+: m ++ rest ↔ x <:+: rest := by
  obtain ⟨a, p, rfl⟩ := List.exists_cons_of_ne_nil hp
  obtain ⟨w, rfl⟩ := List.head?_eq_some_iff.1 (head?_of_mem_decoys hx)
  exact infix_append_iff fun hmem => hmp hmem List.mem_cons_self

end DatasetSql.Text

namespace DatasetSql.Template

/-- With a word in the place of the markers, the word begins nowhere else, exactly if the text has no
decoy. -/
theorem apart_cut_iff {m p : String} (hm : m.toList ≠ []) (hp : p.toList ≠ [])
    (hmp : m.toList.Disjoint p.toList) (s : String) :
    (cut m s).Apart p ↔ ∀ x ∈ Text.decoys m.toList p.toList, ¬ x <:+: s.toList := by
  -- the characters of a marker are passed over, and no decoy begins in them
  suffices h : ∀ (cs : List Char) (k skip : Nat), (cutFrom m.toList k skip cs).Apart p ↔
      ∀ x ∈ Text.decoys m.toList p.toList, ¬ x <:+: cs.drop skip from h s.toList 0 0
  intro cs
  induction cs with
  | nil =>
    intro k skip
    rw [cutFrom, List.drop_nil]
    refine iff_of_true trivial fun x hx hinfix => hp ?_
    have hhead := Text.head?_of_mem_decoys hx
    rw [List.infix_nil.1 hinfix, List.head?_nil] at hhead
    exact List.head?_eq_none_iff.1 hhead.symm
  | cons c cs ih =>
    intro k skip
    cases skip with
    | succ skip => exact ih k skip
    | zero =>
      rw [cutFrom, List.drop_zero]
      split
      next hstart =>
        obtain ⟨rest, hrest⟩ := List.isPrefixOf_iff_prefix.1 hstart
        rw [Apart, ih, Text.drop_of_append_eq_cons hm hrest, ← hrest]
        exact forall₂_congr fun x hx =>
          not_congr (Text.decoy_infix_append_iff hp hmp hx rest).symm
      next hstart =>
        have hnone : ¬ m.toList <+: c :: cs := by simpa using hstart
        have hbegins := Text.prefix_replaceFrom_iff_decoy hm hmp hnone
        rw [Text.replaceFrom_cons hnone] at hbegins
        rw [apart_singleton_cons, fill_cutFrom, String.toList_ofList, hbegins, ih, List.drop_zero]
        simp only [List.infix_cons_iff, not_or, not_exists, not_and, forall_and]

end DatasetSql.Template

namespace DatasetSql.Conversion

open Statement

/-- Where a marker of the input is taken for the end of an inert name. -/
def falseEnds : List String := ["___PLACEHOLDER%s", "___PLACEHOLDER_%s", "___PLACEHOLDER__%s"]

/-- The text has no inert name, and no marker in it is taken for the end of one. -/
def Transparent (sql : String) : Prop :=
  ¬ inertMarker.toList <:+: sql.toList ∧ ∀ x ∈ falseEnds, ¬ x.toList <:+: sql.toList

instance (sql : String) : Decidable (Transparent sql) :=
  inferInstanceAs (Decidable (_ ∧ _))

/-- The marker and the inert name have no character in common. -/
theorem disjoint_inertMarker : sourceMarker.toList.Disjoint inertMarker.toList :=
  List.disjoint_left.2 (List.all_iff_forall_prop.1 (by decide))

/-- The decoys are the inert name itself and the texts that a marker completes to it. -/
theorem decoys_inertMarker : Text.decoys sourceMarker.toList inertMarker.toList =
    inertMarker.toList :: falseEnds.map String.toList := by decide

/-- A text is transparent exactly if it has none of the decoys. -/
theorem transparent_iff {sql : String} : Transparent sql ↔
    ∀ x ∈ Text.decoys sourceMarker.toList inertMarker.toList, ¬ x <:+: sql.toList := by
  rw [decoys_inertMarker, List.forall_mem_cons, List.forall_mem_map]
  rfl

theorem replaceAll_sourceMarker (sql : String) :
    Text.replaceAll sourceMarker sourceMarker sql = sql := by
  rw [Text.replaceAll, Text.replaceFrom_self (by decide), List.drop_zero, String.ofList_toList]

/-- The markers of a text are put away and put back as those of the target. All else in the text is
as it was exactly if the text is transparent; then, if the target has the marker of the input, this is
the text itself. So a statement that the target writes as it is read, markers put away, is converted
to itself exactly if its text is transparent. -/
theorem convertSql_transparent_iff (sql : String) (target : Dialect) :
    let hidden := Text.replaceAll sourceMarker inertMarker sql
    let marked := Text.replaceAll sourceMarker target.placeholder sql
    (target ≠ .duckdb → marked = sql) ∧
    (Text.replaceAll inertMarker target.placeholder hidden = marked ↔ Transparent sql) ∧
    ∀ (source : Option Dialect) (t : Statement), readOne hidden source = .ok t →
      (t.converted target).text = hidden →
      (convertSql sql target source = .ok marked ↔ Transparent sql) := by
  intro hidden marked
  have hback : Text.replaceAll inertMarker target.placeholder hidden = marked ↔
      Transparent sql := by
    rw [transparent_iff, ← Template.apart_cut_iff (by decide) (by decide) disjoint_inertMarker,
      ← replaceAll_placeholder_iff target, Template.fill_cut, Template.fill_cut]
  refine ⟨fun htarget => ?_, hback, fun source t hread htext => ?_⟩
  · show Text.replaceAll sourceMarker target.placeholder sql = sql
    rw [placeholder_eq_sourceMarker htarget, replaceAll_sourceMarker]
  · rw [convertSql_of_readOne hread target, htext, Except.ok.injEq, hback]

/-- A marker that the end of an inert name stands behind. -/
theorem convertSql_transparent_ending :
    let sql := "SELECT %s, '___PLACEHOLDER %sPLACEHOLDER___' FROM t"
    let hidden := Text.replaceAll sourceMarker inertMarker sql
    Dialect.postgres ≠ .duckdb ∧
      Text.replaceAll inertMarker Dialect.postgres.placeholder hidden = sql ∧
      ∃ t, readOne hidden none = .ok t ∧ (t.converted .postgres).text = hidden ∧
        convertSql sql .postgres none = .ok sql := by
  intro sql hidden
  have hrun : (readOne hidden none).toOption.map (fun t => (t.converted .postgres).text) =
      some hidden := by decide +kernel
  obtain ⟨t, ht, htext⟩ := Option.map_eq_some_iff.1 hrun
  rw [toOption_eq_some] at ht
  have hclear : Transparent sql := by decide +kernel
  have htarget : Dialect.postgres ≠ .duckdb := by decide
  obtain ⟨hmarked, hback, hconvert⟩ := convertSql_transparent_iff sql .postgres
  have hsame := (hconvert none t ht htext).2 hclear
  rw [hmarked htarget] at hsame
  exact ⟨htarget, (hback.2 hclear).trans (hmarked htarget), t, ht, htext, hsame⟩

/-- A marker that an opening of the inert name stands before. -/
theorem convertSql_moves_marker :
    let sql := "SELECT '___PLACEHOLDER%s'"
    let output := "SELECT '%sPLACEHOLDER___'"
    ¬ inertMarker.toList <:+: sql.toList ∧
      Text.replaceAll inertMarker sourceMarker
        (Text.replaceAll sourceMarker inertMarker sql) = output ∧
      output ≠ sql ∧ convertSql sql .postgres none = .ok output := by
  intro sql output
  have houtput : (convertSql sql .postgres none).toOption = some output := by decide +kernel
  exact ⟨by decide +kernel, by decide +kernel, by decide, toOption_eq_some.1 houtput⟩

end DatasetSql.Conversion
