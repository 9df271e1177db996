import DatasetSql.Proofs.Equality
import DatasetSql.Proofs.Outcome
import DatasetSql.Proofs.PageWindow

/-!
# The order of parameter markers

Parameters are bound by position, so a conversion should keep the markers of a statement in their
order. The markers of a text are numbered from the left, and followed into the output by names of
their own. They arrive in the order in which the target writes the clauses of the statement. This is
the order of the input only if the target moves no limit past an offset when both have markers.
-/

namespace DatasetSql.Conversion

open Statement

/-- The parameter markers of a text, numbered from the left. -/
def markers (sql : String) : Template := Template.cut sourceMarker sql

/-- The numbers of the markers of a text, by the names that are put in their place. -/
def labels (names : Nat → String) (sql : String) : Labels where
  number? i :=
    if i.quote = none then
      (List.range (markers sql).holes.length).find? fun k => names k == i.value
    else none
  bare {i k} h := by
    by_contra hquote
    rw [if_neg hquote] at h
    exact nomatch h

/-- Every parameter marker of a text is an expression by itself: with a name for each marker, the
text reads as a statement that has each name as an expression, once, and with the name that stands for
all of them it reads as the same statement but for these names. -/
structure WholeMarkers (names : Nat → String) (sql : String) (source : Option Dialect)
    (t : Statement) : Prop where
  numbered : readOne ((markers sql).fill names) source = .ok t
  inert : readOne ((markers sql).fill fun _ => inertMarker) source =
    .ok (t.named (labels names sql) fun _ => inertMarker)
  whole : (t.numbers (labels names sql) false).Perm (markers sql).holes

/-- The markers of the output have the numbers of those of the input, in the same order: the output
is the template of the converted statement with the target's markers in its holes, and the holes are
numbered as in the input. -/
def KeepsMarkers (names : Nat → String) (sql : String) (target : Dialect) (source : Option Dialect)
    (t : Statement) : Prop :=
  ∃ T : Template,
    (∀ others, ((t.named (labels names sql) others).converted target).text = T.fill others) ∧
      convertSql sql target source = .ok (T.fill fun _ => target.placeholder) ∧
      T.holes = (markers sql).holes

section

variable {names : Nat → String} {sql : String} {source : Option Dialect} {t : Statement}

/-- The markers of a text are numbered, so no number occurs twice. -/
theorem nodup_holes (sql : String) : (markers sql).holes.Nodup := by
  rw [markers, Template.holes_cut]
  exact List.nodup_range

/-- Where each marker is a name of its own, the conversion writes the statement and puts the
placeholders of the target back. -/
theorem convertSql_of_wholeMarkers (h : WholeMarkers names sql source t) (target : Dialect) :
    convertSql sql target source = .ok (Text.replaceAll inertMarker target.placeholder
      ((t.named (labels names sql) fun _ => inertMarker).converted target).text) := by
  have hread := h.inert
  rw [markers, Template.fill_cut] at hread
  exact convertSql_of_readOne hread target

/-- Putting the markers of the target in is filling the holes with them, exactly if the inert name
begins nowhere else. -/
theorem replaceAll_placeholder_iff (target : Dialect) (T : Template) :
    Text.replaceAll inertMarker target.placeholder (T.fill fun _ => inertMarker) =
      (T.fill fun _ => target.placeholder) ↔ T.Apart inertMarker := by
  have hinert : inertMarker = String.ofList ('_' :: "__PLACEHOLDER___".toList) := by decide
  rw [hinert]
  by_cases hd : target = .duckdb
  · have hplaceholder : target.placeholder = String.ofList ('?' :: []) := by rw [hd]; decide
    rw [hplaceholder]
    exact Template.replaceAll_fill_iff (by decide) T
  · have hplaceholder : target.placeholder = String.ofList ('%' :: ['s']) :=
      placeholder_eq_sourceMarker hd
    rw [hplaceholder]
    exact Template.replaceAll_fill_iff (by decide) T

/-- The markers are kept exactly if the written text has them in the order of the input, and none is
formed beside them. -/
theorem keepsMarkers_iff (h : WholeMarkers names sql source t) {target : Dialect} {T : Template}
    (hT : ∀ others, ((t.named (labels names sql) others).converted target).text = T.fill others) :
    KeepsMarkers names sql target source t ↔
      T.Apart inertMarker ∧ T.holes = (markers sql).holes := by
  have hout := convertSql_of_wholeMarkers h target
  rw [hT] at hout
  constructor
  · rintro ⟨U, hU, hsql, hholes⟩
    have hsame : T.holes = U.holes := Template.Prints.unique ⟨T, rfl, hT⟩ ⟨U, rfl, hU⟩
    rw [hsql, ← hU, hT] at hout
    exact ⟨(replaceAll_placeholder_iff target T).1 (Except.ok.inj hout).symm, hsame.trans hholes⟩
  · rintro ⟨hapart, hholes⟩
    rw [(replaceAll_placeholder_iff target T).2 hapart] at hout
    exact ⟨T, hT, hout, hholes⟩

/-- What a target without `LIMIT` does to the order of the markers of a statement that has them in the
order of writing. -/
theorem numbers_eq_iff (h : WholeMarkers names sql source t) (target : Dialect)
    (hwritten : t.numbers (labels names sql) false = (markers sql).holes) :
    t.numbers (labels names sql) (!target.acceptsLimit) = (markers sql).holes ↔
      target.acceptsLimit = true ∨
        ∀ q ∈ t.gather writtenQueries, q.KeepsOrder (labels names sql) := by
  cases hlimit : target.acceptsLimit with
  | true => simpa using hwritten
  | false =>
    have hnodup := h.whole.nodup_iff.2 (nodup_holes sql)
    have hmoved := (t.moved (labels names sql)).eq_iff hnodup
    rw [← hwritten]
    simpa using hmoved

/-- Reading the text twice decides whether its markers are expressions by themselves; what else is
asked about the statement can be answered on the way. -/
theorem exists_wholeMarkers {α : Type} (names : Nat → String) (sql : String)
    (source : Option Dialect) (f : Statement → α) (ks : List Nat) (a : α)
    (hrun : ((readOne ((markers sql).fill names) source).toOption.bind fun t =>
      (readOne ((markers sql).fill fun _ => inertMarker) source).toOption.map fun s =>
        (decide (s = t.named (labels names sql) fun _ => inertMarker),
          t.numbers (labels names sql) false, f t)) = some (true, ks, a))
    (hks : ks.Perm (markers sql).holes) : ∃ t, WholeMarkers names sql source t ∧ f t = a := by
  obtain ⟨t, ht, hrun⟩ := Option.bind_eq_some_iff.1 hrun
  obtain ⟨s, hs, hrun⟩ := Option.map_eq_some_iff.1 hrun
  simp only [Prod.mk.injEq, decide_eq_true_eq] at hrun
  obtain ⟨rfl, rfl, rfl⟩ := hrun
  exact ⟨t, ⟨toOption_eq_some.1 ht, toOption_eq_some.1 hs, hks⟩, rfl⟩

/-- A text in which every parameter marker is an expression by itself is converted to a text of its
own for any target. The output is a template with the target's markers in its holes. It carries the
numbers of the input in the same order exactly if the inert name begins nowhere else in it and the
clauses of the statement, in the order in which the target writes them, have the markers in order. If
they have them in order as the statement is written, then the target must have `LIMIT`, or no query
of the statement may have markers in its limit and also in what the limit is moved past or dropped
for. -/
theorem convertSql_markers (h : WholeMarkers names sql source t) (target : Dialect) :
    ∃ T : Template,
      (∀ others, ((t.named (labels names sql) others).converted target).text = T.fill others) ∧
      convertSql sql target source = .ok
        (Text.replaceAll inertMarker target.placeholder (T.fill fun _ => inertMarker)) ∧
      T.holes = t.numbers (labels names sql) (!target.acceptsLimit) ∧
      (KeepsMarkers names sql target source t ↔
        T.Apart inertMarker ∧
          t.numbers (labels names sql) (!target.acceptsLimit) = (markers sql).holes) ∧
      (t.numbers (labels names sql) false = (markers sql).holes →
        (t.numbers (labels names sql) (!target.acceptsLimit) = (markers sql).holes ↔
          target.acceptsLimit = true ∨
            ∀ q ∈ t.gather writtenQueries, q.KeepsOrder (labels names sql))) := by
  -- the text is a template that no choice of the other names changes
  obtain ⟨T, hholes, hT⟩ := t.prints_converted target (labels names sql)
  replace hT (others : Nat → String) :
      ((t.named (labels names sql) others).converted target).text = T.fill others := hT others
  refine ⟨T, hT, ?_, hholes, ?_, numbers_eq_iff h target⟩
  · rw [convertSql_of_wholeMarkers h target, hT]
  · rw [← hholes]
    exact keepsMarkers_iff h hT

end

/-- Names for markers that no text has by accident. -/
def numberedMarker (k : Nat) : String := inertMarker ++ toString k

/-- A limit that is moved past an offset without markers. -/
theorem convertSql_markers_limit :
    ∃ t, WholeMarkers numberedMarker "SELECT a FROM t WHERE b = %s LIMIT %s OFFSET 2" none t ∧
      KeepsMarkers numberedMarker "SELECT a FROM t WHERE b = %s LIMIT %s OFFSET 2" .tsql none t := by
  let sql := "SELECT a FROM t WHERE b = %s LIMIT %s OFFSET 2"
  obtain ⟨t, ht, hrun⟩ := exists_wholeMarkers numberedMarker sql none
    (fun t => (t.numbers (labels numberedMarker sql) true,
      decide (Text.replaceAll inertMarker "%s"
        ((t.named (labels numberedMarker sql) fun _ => inertMarker).converted .tsql).text =
        ((t.named (labels numberedMarker sql) fun _ => "%s").converted .tsql).text)))
    [0, 1] ([0, 1], true) (by decide +kernel) (by decide +kernel)
  simp only [Prod.mk.injEq, decide_eq_true_eq] at hrun
  obtain ⟨T, hT, -, -, hkeeps, -⟩ := convertSql_markers ht .tsql
  have hapart : T.Apart inertMarker := by
    rw [← replaceAll_placeholder_iff .tsql, ← hT, ← hT]
    exact hrun.2
  have hholes : (markers sql).holes = [0, 1] := by decide +kernel
  exact ⟨t, ht, hkeeps.2 ⟨hapart, hrun.1.trans hholes.symm⟩⟩

/-- The limit and the offset of a query both have a marker, and the target writes the offset first. -/
theorem convertSql_swaps_markers :
    ∃ t, WholeMarkers numberedMarker "SELECT a FROM t LIMIT %s + 1 OFFSET %s + 2" none t ∧
      convertSql "SELECT a FROM t LIMIT %s + 1 OFFSET %s + 2" .tsql none =
        .ok ("SELECT a FROM t ORDER BY (SELECT NULL) OFFSET %s + 2 ROWS " ++
          "FETCH FIRST %s + 1 ROWS ONLY") ∧
      ¬ KeepsMarkers numberedMarker "SELECT a FROM t LIMIT %s + 1 OFFSET %s + 2" .tsql none t := by
  let sql := "SELECT a FROM t LIMIT %s + 1 OFFSET %s + 2"
  obtain ⟨t, ht, htrue⟩ := exists_wholeMarkers numberedMarker sql none
    (fun t => t.numbers (labels numberedMarker sql) true) [0, 1] [1, 0]
    (by decide +kernel) (by decide +kernel)
  refine ⟨t, ht, toOption_eq_some.1 (by decide +kernel), fun hkeeps => ?_⟩
  obtain ⟨T, hholes, hT⟩ := t.prints_converted .tsql (labels numberedMarker sql)
  have hsame := ((keepsMarkers_iff ht hT).1 hkeeps).2
  rw [hholes.trans htrue] at hsame
  exact absurd hsame (by decide +kernel)

end DatasetSql.Conversion
