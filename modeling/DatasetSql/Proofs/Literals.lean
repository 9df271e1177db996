import DatasetSql.Proofs.PageWindow

/-!
# The string literals of a statement

The text of a statement is made of words and string literals. A conversion changes words only. It
writes the literals of a statement in the order of the clauses, so they come in another order, and
some are lost, only where the limit of a query is written as a `FETCH`.
-/

namespace DatasetSql.Statement

/-- What is written in a string literal. -/
def Value.content? : Value → Option String
  | .string s | .doubleQuoted s | .tripleQuoted _ s | .marked _ _ _ s | .escaped s
  | .numbered s | .dollarQuoted _ s => some s
  | .number _ _ | .boolean _ | .null | .placeholder _ => none

/-! ## Spans -/

/-- A piece of the text of a statement: some words, or a string literal. -/
inductive Span where
  | words (s : String)
  | literal (v : Value) (h : v.content?.isSome = true)

/-- The text of a span. -/
def Span.text : Span → String
  | .words s => s
  | .literal v _ => v.text

/-- The literal of a span. -/
def Span.literal? : Span → Option Value
  | .words _ => none
  | .literal v _ => some v

/-- The text of spans. -/
def spansText : List Span → String
  | [] => ""
  | x :: xs => x.text ++ spansText xs

/-- The literals of spans. -/
def literals (xs : List Span) : List Value := xs.filterMap Span.literal?

/-- Spans with a separator between neighbours. -/
def joinedSpans (sep : String) : List (List Span) → List Span
  | [] => []
  | [xs] => xs
  | xs :: ys :: xss => xs ++ .words sep :: joinedSpans sep (ys :: xss)

/-- The span of a literal; one that is no string counts as words. -/
def Value.span (v : Value) : Span :=
  if h : v.content?.isSome = true then .literal v h else .words v.text

/-- Spans that are left out when there is nothing to say. -/
def optionalSpans (before : String) : Option (List Span) → List Span
  | some xs => .words before :: xs
  | none => []

/-- The spans of an offset. -/
def offsetSpans (unit : OffsetUnit) : Option (List Span) → List Span
  | some xs => .words " OFFSET " :: xs ++ [.words unit.text]
  | none => []

/-- The spans of a `FETCH` clause. -/
def fetchSpans (fetched : Option (List Span)) : Option FetchStyle → List Span
  | none => []
  | some style =>
    match fetched with
    | some xs =>
      .words " FETCH FIRST" :: .words " " :: xs ++ [.words ((if style.percent then " PERCENT" else "") ++
        " ROWS " ++ if style.withTies then "WITH TIES" else "ONLY")]
    | none => [.words (FetchStyle.text none style)]

-- The spans follow the writer of statements, which puts the parts of a tree in this order.
mutual

/-- The spans of a part of a phrase. -/
def Part.spans : Part → List Span
  | .words s => [.words s]
  | .literal v => [v.span]
  | .expr e => e.spans
  | .query q => q.spans
  | .source s => s.spans
  | .late parts => phraseSpans parts

/-- The spans of a phrase. -/
def phraseSpans : List Part → List Span
  | [] => []
  | p :: ps => p.spans ++ phraseSpans ps

/-- The spans of an expression. -/
def Expr.spans : Expr → List Span
  | .ident name => [.words name.text]
  | .compound parts => [.words (nameText parts)]
  | .value v => [v.span]
  | .call name tail => .words (nameText name) :: phraseSpans tail
  | .binary l operator r => l.spans ++ .words (" " ++ operator ++ " ") :: r.spans
  | .subquery q => .words "(" :: q.spans ++ [.words ")"]
  | .form _ parts => phraseSpans parts

/-- The spans of an expression that may be left out. -/
def exprSpans? : Option Expr → Option (List Span)
  | none => none
  | some e => some e.spans

/-- The spans of a query. -/
def Query.spans : Query → List Span
  | .mk recursive ctes body order limit offset unit detail fetch fetched closing =>
    (if ctes.isEmpty then []
      else .words (if recursive then "WITH RECURSIVE " else "WITH ") ::
        joinedSpans ", " (cteSpans ctes) ++ [.words " "]) ++
      body.spans ++ (if order.isEmpty then [] else .words " ORDER BY " :: phraseSpans order) ++
      optionalSpans " LIMIT " (exprSpans? limit) ++ offsetSpans unit (exprSpans? offset) ++
      phraseSpans detail ++ fetchSpans (exprSpans? fetched) fetch ++ [.words closing]

/-- The spans of common table expressions. -/
def cteSpans : List Cte → List (List Span)
  | [] => []
  | .mk asName materialized q origin :: ctes =>
    (.words (asName.text ++ " AS " ++ materialized ++ "(") :: q.spans ++
      [.words (")" ++ optional " FROM " (origin.map Ident.text))]) :: cteSpans ctes

/-- The spans of the body of a query. -/
def Body.spans : Body → List Span
  | .select s => s.spans
  | .query q => .words "(" :: q.spans ++ [.words ")"]
  | .setOperation l operator r => l.spans ++ .words (" " ++ operator ++ " ") :: r.spans
  | .phrase parts => phraseSpans parts

/-- The spans of a `SELECT`. -/
def Select.spans : Select → List Span
  | .mk opening items target sources clauses =>
    .words "SELECT" :: phraseSpans opening ++ .words " " :: joinedSpans ", " (itemSpans items) ++
      .words target :: (if sources.isEmpty then []
        else .words " FROM " :: joinedSpans ", " (sourceSpans sources)) ++ phraseSpans clauses

/-- The spans of the items of a select list. -/
def itemSpans : List (Expr × Option Ident) → List (List Span)
  | [] => []
  | (e, asName) :: items =>
    (e.spans ++ [.words (optional " AS " (asName.map Ident.text))]) :: itemSpans items

/-- The spans of the sources of a `FROM` clause. -/
def sourceSpans : List Source → List (List Span)
  | [] => []
  | s :: ss => s.spans :: sourceSpans ss

/-- The spans of a source. -/
def Source.spans : Source → List Span
  | .mk relation joins => relation.spans ++ joinSpans joins

/-- The spans of a relation. -/
def Relation.spans : Relation → List Span
  | .table name _ detail asName tail =>
    .words (nameText name) :: phraseSpans detail ++ .words (aliasText asName) :: phraseSpans tail
  | .derived lateral q asName =>
    .words ((if lateral then "LATERAL " else "") ++ "(") :: q.spans ++
      [.words (")" ++ aliasText asName)]
  | .nested source asName => .words "(" :: source.spans ++ [.words (")" ++ aliasText asName)]
  | .form parts asName tail => phraseSpans parts ++ [.words (aliasText asName ++ tail)]

/-- The spans of joins. -/
def joinSpans : List Join → List Span
  | [] => []
  | .mk words relation condition :: js =>
    .words (words ++ " ") :: relation.spans ++ phraseSpans condition ++ joinSpans js

end

end DatasetSql.Statement

namespace DatasetSql

open Statement

/-- The spans of a statement. -/
def Statement.spans : Statement → List Span
  | .query q => q.spans
  | .command parts => phraseSpans parts

/-- The string literals of a statement in the order of writing. -/
def Statement.strings (s : Statement) : List Value := literals s.spans

end DatasetSql

namespace DatasetSql.Statement

/-! ## The text of the spans is the text of the statement -/

/-- The text of spans is that of their parts, one behind the other. -/
@[simp]
theorem spansText_append (xs ys : List Span) :
    spansText (xs ++ ys) = spansText xs ++ spansText ys := by
  induction xs with
  | nil => exact String.empty_append.symm
  | cons x xs ih => rw [List.cons_append, spansText, ih, spansText, String.append_assoc]

@[simp]
theorem spansText_cons (x : Span) (xs : List Span) : spansText (x :: xs) = x.text ++ spansText xs :=
  rfl

@[simp]
theorem spansText_nil : spansText [] = "" := rfl

@[simp]
theorem Span.text_words (s : String) : (Span.words s).text = s := rfl

@[simp]
theorem Value.text_span (v : Value) : v.span.text = v.text := by
  unfold Value.span
  split <;> rfl

/-- Spans with a separator between them have the joined texts. -/
theorem spansText_joinedSpans (sep : String) (xss : List (List Span)) :
    spansText (joinedSpans sep xss) = Text.joined sep (xss.map spansText) := by
  induction xss with
  | nil => rfl
  | cons xs xss ih =>
    cases xss with
    | nil => simp [joinedSpans, Text.joined]
    | cons ys xss =>
      rw [joinedSpans, spansText_append, spansText_cons, ih]
      simp [Text.joined, String.append_assoc]

/-- Spans that are left out when there is nothing to say have the text that is left out. -/
theorem spansText_optionalSpans (before : String) (xs : Option (List Span)) :
    spansText (optionalSpans before xs) = optional before (xs.map spansText) := by
  cases xs <;> rfl

theorem spansText_offsetSpans (unit : OffsetUnit) (xs : Option (List Span)) :
    spansText (offsetSpans unit xs) =
      (xs.map spansText).elim "" fun n => " OFFSET " ++ n ++ unit.text := by
  cases xs with
  | none => rfl
  | some xs => simp [offsetSpans, String.append_assoc]

theorem spansText_fetchSpans (fetched : Option (List Span)) (fetch : Option FetchStyle) :
    spansText (fetchSpans fetched fetch) =
      fetch.elim "" (FetchStyle.text (fetched.map spansText)) := by
  cases fetch with
  | none => rfl
  | some style =>
    cases fetched with
    | none => exact String.append_empty
    | some xs =>
      rw [fetchSpans, Option.map_some, Option.elim_some]
      unfold FetchStyle.text
      simp only [spansText_append, spansText_cons, spansText_nil, Span.text_words,
        String.append_empty, String.append_assoc]

mutual

/-- The spans of a part have its text. Each case follows the printer. -/
theorem Part.spansText_spans : ∀ x : Part, spansText x.spans = x.text
  | .words s => by simp [Part.spans, Part.text]
  | .literal v => by simp [Part.spans, Part.text]
  | .expr e => Expr.spansText_spans e
  | .query q => Query.spansText_spans q
  | .source s => Source.spansText_spans s
  | .late ps => spansText_phraseSpans ps

theorem spansText_phraseSpans : ∀ ps : List Part, spansText (phraseSpans ps) = phraseText ps
  | [] => rfl
  | x :: ps => by
    rw [phraseSpans, spansText_append, Part.spansText_spans x, spansText_phraseSpans ps, phraseText]

/-- The spans of an expression have its text. -/
theorem Expr.spansText_spans : ∀ e : Expr, spansText e.spans = e.text
  | .ident i => by simp [Expr.spans, Expr.text]
  | .compound is => by simp [Expr.spans, Expr.text]
  | .value v => by simp [Expr.spans, Expr.text]
  | .call name tail => by simp [Expr.spans, Expr.text, spansText_phraseSpans tail]
  | .binary l operator r => by
    simp [Expr.spans, Expr.text, Expr.spansText_spans l, Expr.spansText_spans r,
      String.append_assoc]
  | .subquery q => by simp [Expr.spans, Expr.text, Query.spansText_spans q, String.append_assoc]
  | .form _ ps => by rw [Expr.spans, Expr.text, spansText_phraseSpans ps]

theorem map_spansText_exprSpans? : ∀ e : Option Expr, (exprSpans? e).map spansText = exprText? e
  | none => rfl
  | some e => congrArg some (Expr.spansText_spans e)

/-- The spans of a query have its text. -/
theorem Query.spansText_spans : ∀ q : Query, spansText q.spans = q.text
  | .mk recursive ctes body order limit offset unit detail fetch fetched closing => by
    have hctes := map_spansText_cteSpans ctes
    have horder := spansText_phraseSpans order
    rw [Query.spans, Query.text]
    simp only [spansText_append, spansText_cons, spansText_nil, Span.text_words, String.append_empty,
      spansText_optionalSpans, spansText_offsetSpans, spansText_fetchSpans,
      map_spansText_exprSpans? limit, map_spansText_exprSpans? offset,
      map_spansText_exprSpans? fetched, Body.spansText_spans body, spansText_phraseSpans detail]
    -- what is left are the clauses that are there only if they are not empty
    cases ctes <;> cases order <;>
      simp [spansText_joinedSpans, hctes, horder, String.append_assoc]

theorem map_spansText_cteSpans : ∀ ctes : List Cte, (cteSpans ctes).map spansText = cteTexts ctes
  | [] => rfl
  | .mk a materialized q origin :: ctes => by
    simp [cteSpans, cteTexts, Query.spansText_spans q, map_spansText_cteSpans ctes,
      String.append_assoc]

theorem Body.spansText_spans : ∀ b : Body, spansText b.spans = b.text
  | .select s => Select.spansText_spans s
  | .query q => by simp [Body.spans, Body.text, Query.spansText_spans q, String.append_assoc]
  | .setOperation l operator r => by
    simp [Body.spans, Body.text, Body.spansText_spans l, Body.spansText_spans r,
      String.append_assoc]
  | .phrase ps => spansText_phraseSpans ps

theorem Select.spansText_spans : ∀ s : Select, spansText s.spans = s.text
  | .mk opening items target sources clauses => by
    have hsources := map_spansText_sourceSpans sources
    rw [Select.spans, Select.text]
    simp only [spansText_append, spansText_cons, Span.text_words, spansText_phraseSpans opening,
      spansText_phraseSpans clauses, spansText_joinedSpans, map_spansText_itemSpans items]
    cases sources <;> simp [spansText_joinedSpans, hsources, String.append_assoc]

theorem map_spansText_itemSpans : ∀ items : List (Expr × Option Ident),
    (itemSpans items).map spansText = itemTexts items
  | [] => rfl
  | (e, a) :: items => by
    simp [itemSpans, itemTexts, Expr.spansText_spans e, map_spansText_itemSpans items]

theorem map_spansText_sourceSpans : ∀ ss : List Source,
    (sourceSpans ss).map spansText = sourceTexts ss
  | [] => rfl
  | s :: ss => congrArg₂ List.cons (Source.spansText_spans s) (map_spansText_sourceSpans ss)

theorem Source.spansText_spans : ∀ s : Source, spansText s.spans = s.text
  | .mk relation joins => by
    rw [Source.spans, spansText_append, Relation.spansText_spans relation,
      spansText_joinSpans joins, Source.text]

theorem Relation.spansText_spans : ∀ r : Relation, spansText r.spans = r.text
  | .table name _ detail a tail => by
    simp [Relation.spans, Relation.text, spansText_phraseSpans detail, spansText_phraseSpans tail,
      String.append_assoc]
  | .derived lateral q a => by
    simp [Relation.spans, Relation.text, Query.spansText_spans q, String.append_assoc]
  | .nested source a => by
    simp [Relation.spans, Relation.text, Source.spansText_spans source, String.append_assoc]
  | .form ps a tail => by
    simp [Relation.spans, Relation.text, spansText_phraseSpans ps, String.append_assoc]

theorem spansText_joinSpans : ∀ js : List Join, spansText (joinSpans js) = joinTexts js
  | [] => rfl
  | .mk words relation condition :: js => by
    simp [joinSpans, joinTexts, Relation.spansText_spans relation, spansText_phraseSpans condition,
      spansText_joinSpans js, String.append_assoc]

end

/-! ## Literals through a conversion -/

theorem literals_append (xs ys : List Span) : literals (xs ++ ys) = literals xs ++ literals ys :=
  List.filterMap_append

@[simp]
theorem literals_nil : literals [] = [] := rfl

@[simp]
theorem literals_words (s : String) (xs : List Span) : literals (.words s :: xs) = literals xs := rfl

theorem literals_joinedSpans (sep : String) (xss : List (List Span)) :
    literals (joinedSpans sep xss) = literals xss.flatten := by
  induction xss with
  | nil => rfl
  | cons xs xss ih =>
    cases xss with
    | nil => rw [joinedSpans, List.flatten_cons, List.flatten_nil, List.append_nil]
    | cons ys xss =>
      rw [joinedSpans, literals_append, literals_words, ih, ← literals_append]
      rfl

/-- The spans of an expression, none if it is left out. -/
def spansOf (e : Option Expr) : List Span := (exprSpans? e).getD []

/-- The literals of a query are those of its clauses. -/
theorem literals_query (recursive : Bool) (ctes : List Cte) (body : Body) (order : List Part)
    (limit offset : Option Expr) (unit : OffsetUnit) (detail : List Part)
    (fetch : Option FetchStyle) (fetched : Option Expr) (closing : String) :
    literals (Query.mk recursive ctes body order limit offset unit detail fetch fetched
        closing).spans =
      literals ((cteSpans ctes).flatten ++ body.spans ++ phraseSpans order ++ (spansOf limit ++
        spansOf offset ++ phraseSpans detail ++ if fetch.isSome then spansOf fetched else [])) := by
  -- each clause holds the literals of what it is written from; its own words hold none
  have hctes : literals (if ctes.isEmpty then []
      else .words (if recursive then "WITH RECURSIVE " else "WITH ") ::
        joinedSpans ", " (cteSpans ctes) ++ [.words " "]) = literals (cteSpans ctes).flatten := by
    cases ctes with
    | nil => rfl
    | cons c ctes =>
      simp only [List.isEmpty_cons, Bool.false_eq_true, if_false, List.cons_append, literals_words,
        literals_append, literals_joinedSpans, literals_nil, List.append_nil]
  have horder : literals (if order.isEmpty then [] else .words " ORDER BY " :: phraseSpans order) =
      literals (phraseSpans order) := by
    cases order with
    | nil => rfl
    | cons x order => rfl
  have hlimit : literals (optionalSpans " LIMIT " (exprSpans? limit)) = literals (spansOf limit) := by
    cases limit with
    | none => rfl
    | some n => rfl
  have hoffset : literals (offsetSpans unit (exprSpans? offset)) = literals (spansOf offset) := by
    cases offset with
    | none => rfl
    | some n => simp [exprSpans?, offsetSpans, spansOf, literals_append]
  have hfetch : literals (fetchSpans (exprSpans? fetched) fetch) =
      literals (if fetch.isSome then spansOf fetched else []) := by
    cases fetch with
    | none => rfl
    | some style =>
      cases fetched with
      | none => rfl
      | some n => simp [exprSpans?, fetchSpans, spansOf, literals_append]
  simp only [Query.spans, literals_append, hctes, horder, hlimit, hoffset, hfetch, literals_words,
    literals_nil, List.append_nil, List.append_assoc]

/-- A query keeps its literals in order if it has no limit, or if a `FETCH` for its limit pushes no
literal out and passes none. -/
def Query.KeepsLiterals : Query → Prop
  | .mk _ _ _ _ limit offset _ detail fetch fetched _ =>
    limit = none ∨ literals (if fetch.isSome then spansOf fetched else []) = [] ∧
      (literals (spansOf limit) = [] ∨ literals (spansOf offset ++ phraseSpans detail) = [])

section

variable {fetching : Bool} {xs xs' ys ys' : List Span} {qs rs : List Query}

/-- The literals of one text are those of another or some of them. They are all of them in the same
order if no limit is written as a `FETCH`, or if these queries keep their literals in order. -/
structure Kept (fetching : Bool) (xs' xs : List Span) (qs : List Query) : Prop where
  subperm : (literals xs').Subperm (literals xs)
  eq : (fetching = true → ∀ q ∈ qs, q.KeepsLiterals) → literals xs' = literals xs

namespace Kept

/-- Literals that are the same are kept. -/
theorem of_eq (h : literals xs' = literals xs) : Kept fetching xs' xs [] where
  subperm := by rw [h]
  eq _ := h

theorem refl (xs : List Span) : Kept fetching xs xs [] := of_eq rfl

/-- Only the literals of a text matter. -/
theorem congr (h : Kept fetching xs' xs qs) (hx' : literals ys' = literals xs')
    (hx : literals ys = literals xs) : Kept fetching ys' ys qs where
  subperm := by
    rw [hx', hx]
    exact h.subperm
  eq hqs := by rw [hx', hx, h.eq hqs]

/-- Texts with something between them keep their literals if each part does. -/
theorem append (hx : Kept fetching xs' xs qs) (hy : Kept fetching ys' ys rs) :
    Kept fetching (xs' ++ ys') (xs ++ ys) (qs ++ rs) where
  subperm := by
    rw [literals_append, literals_append]
    exact hx.subperm.append hy.subperm
  eq h := by
    have hqs (hf : fetching = true) : ∀ q ∈ qs, q.KeepsLiterals :=
      fun q hq => h hf q (List.mem_append_left rs hq)
    have hrs (hf : fetching = true) : ∀ q ∈ rs, q.KeepsLiterals :=
      fun q hq => h hf q (List.mem_append_right qs hq)
    rw [literals_append, literals_append, hx.eq hqs, hy.eq hrs]

/-- Words before the literals may be any. -/
theorem after {s t : String} (hx : Kept fetching xs' xs qs) :
    Kept fetching (.words s :: xs') (.words t :: xs) qs := hx.congr rfl rfl

/-- Words behind the literals may be any. -/
theorem before {s t : String} (hx : Kept fetching xs' xs qs) :
    Kept fetching (xs' ++ [.words s]) (xs ++ [.words t]) qs := by
  apply hx.congr
  · rw [literals_append, literals_words, literals_nil, List.append_nil]
  · rw [literals_append, literals_words, literals_nil, List.append_nil]

/-- Lists keep their literals if the members do, taken together. -/
theorem joined {xss xss' : List (List Span)} (sep : String)
    (h : Kept fetching xss'.flatten xss.flatten qs) :
    Kept fetching (joinedSpans sep xss') (joinedSpans sep xss) qs :=
  h.congr (literals_joinedSpans sep xss') (literals_joinedSpans sep xss)

/-- One more query that is asked nothing. -/
theorem cons (q : Query) (h : Kept fetching xs' xs qs) : Kept fetching xs' xs (q :: qs) where
  subperm := h.subperm
  eq hqs := h.eq fun hf q hq => hqs hf q (List.mem_cons_of_mem _ hq)

/-- A limit that is written behind the offset, in the place of what is dropped. -/
theorem swap {q : Query} (us : List Span) (ts : List Query)
    (hq : q.KeepsLiterals → literals us = [] ∧ (literals xs = [] ∨ literals ys = []))
    (hx : Kept true xs' xs qs) (hy : Kept true ys' ys rs) :
    Kept true (ys' ++ xs') (xs ++ ys ++ us) (q :: (qs ++ rs ++ ts)) where
  subperm := by
    rw [literals_append, literals_append, literals_append]
    have hsub : (literals ys' ++ literals xs').Subperm (literals xs ++ literals ys) :=
      (hy.subperm.append hx.subperm).trans List.perm_append_comm.subperm
    exact hsub.trans (List.sublist_append_left _ _).subperm
  eq h := by
    have hall := h rfl
    rw [List.forall_mem_cons, List.forall_mem_append, List.forall_mem_append] at hall
    obtain ⟨hkeeps, ⟨hqs, hrs⟩, -⟩ := hall
    obtain ⟨hus, hempty⟩ := hq hkeeps
    rw [literals_append, literals_append, literals_append, hx.eq fun _ => hqs, hy.eq fun _ => hrs,
      hus, List.append_nil]
    rcases hempty with hxs | hys
    · rw [hxs, List.append_nil, List.nil_append]
    · rw [hys, List.append_nil, List.nil_append]

/-- What is written under a condition. -/
theorem onlyIf (condition : Bool) (h : Kept fetching xs' xs qs) :
    Kept fetching (if condition then xs' else []) (if condition then xs else [])
      (if condition then qs else []) := by
  cases condition with
  | true => exact h
  | false => exact refl []

end Kept

/-! ## The conversion -/

/-- A function keeps its arguments, and no truth value is a string. -/
theorem literals_convertExpr (d : Dialect) (e : Expr) :
    literals (Conversion.convertExpr d e).spans = literals e.spans := by
  cases e with
  | call name tail =>
    obtain ⟨name', hname⟩ := exists_convertExpr_call d name
    rw [hname]
    rfl
  | value v =>
    cases v with
    | boolean b =>
      simp only [Conversion.convertExpr]
      split <;> rfl
    | _ => rfl
  | _ => rfl

/-- An order that is put in has no literals. -/
theorem kept_padded_order {order order' : List Part} (pads : Bool)
    (hempty : order'.isEmpty = order.isEmpty)
    (h : Kept fetching (phraseSpans order') (phraseSpans order) qs) :
    Kept fetching (phraseSpans (if pads && order'.isEmpty then Conversion.nullOrder else order'))
      (phraseSpans order) qs := by
  cases hpad : pads && order'.isEmpty with
  | true =>
    rw [Bool.and_eq_true, hempty, List.isEmpty_iff] at hpad
    have hnone : order' = [] := by
      rw [← List.isEmpty_iff, hempty, hpad.2]
      rfl
    rw [hnone] at h
    exact h.congr rfl rfl
  | false => exact h

/-- An offset that is put in has no literals. -/
theorem kept_padded_offset {offset offset' : Option Expr} (pads : Bool)
    (h : Kept fetching (spansOf offset') (spansOf offset) qs) :
    Kept fetching (spansOf (if pads && !offset'.isSome then some (.value (.number "0" false))
      else offset')) (spansOf offset) qs := by
  cases offset' with
  | some n => simpa using h
  | none =>
    cases pads with
    | true => exact h.congr rfl rfl
    | false => exact h

/-- A converted query has the literals of the query if the converted parts have those of the parts. -/
theorem kept_query (d : Dialect) (recursive : Bool) (ctes : List Cte) (body : Body)
    (order : List Part) (limit offset : Option Expr) (unit : OffsetUnit) (detail : List Part)
    (fetch : Option FetchStyle) (fetched : Option Expr) (closing : String)
    (hctes : Kept (!d.acceptsLimit) (cteSpans (passCtes (converter d) ctes)).flatten
      (cteSpans ctes).flatten (gatherCtes writtenQueries ctes))
    (hbody : Kept (!d.acceptsLimit) (Body.spans (body.passM (converter d))) body.spans
      (body.gather writtenQueries))
    (horder : Kept (!d.acceptsLimit) (phraseSpans (passPhrase (converter d) order))
      (phraseSpans order) (gatherPhrase writtenQueries order))
    (hlimit : Kept (!d.acceptsLimit) (spansOf (passExpr? (converter d) limit)) (spansOf limit)
      (gatherExpr? writtenQueries limit))
    (hoffset : Kept (!d.acceptsLimit) (spansOf (passExpr? (converter d) offset)) (spansOf offset)
      (gatherExpr? writtenQueries offset))
    (hdetail : Kept (!d.acceptsLimit) (phraseSpans (passPhrase (converter d) detail))
      (phraseSpans detail) (gatherPhrase writtenQueries detail))
    (hfetched : Kept (!d.acceptsLimit) (spansOf (passExpr? (converter d) fetched)) (spansOf fetched)
      (gatherExpr? writtenQueries fetched)) :
    let q := Query.mk recursive ctes body order limit offset unit detail fetch fetched closing
    Kept (!d.acceptsLimit) (Query.spans (q.passM (converter d))) q.spans
      (q.gather writtenQueries) := by
  intro q
  have hpass : q.passM (converter d) = Conversion.convertQuery d (.mk recursive
      (passCtes (converter d) ctes) (body.passM (converter d)) (passPhrase (converter d) order)
      (passExpr? (converter d) limit) (passExpr? (converter d) offset) unit
      (passPhrase (converter d) detail) fetch (passExpr? (converter d) fetched) closing) := rfl
  have hgather : q.gather writtenQueries = gatherCtes writtenQueries ctes ++
      body.gather writtenQueries ++ gatherPhrase writtenQueries order ++
        q :: (gatherExpr? writtenQueries limit ++ gatherExpr? writtenQueries offset ++
          gatherPhrase writtenQueries detail ++
          if fetch.isSome then gatherExpr? writtenQueries fetched else []) := rfl
  have hcount := hfetched.onlyIf fetch.isSome
  rw [hpass, hgather]
  cases hd : d.acceptsLimit with
  | true =>
    -- the query stays as it is
    simp only [Conversion.convertQuery, hd, if_true]
    simp only [hd] at *
    have hwindow := (((hlimit.append hoffset).append hdetail).append hcount).cons q
    have h := ((hctes.append hbody).append horder).append hwindow
    exact h.congr (literals_query ..) (literals_query ..)
  | false =>
    simp only [convertQuery_eq d hd, isSome_passExpr?]
    generalize ((limit.isSome || fetch.isSome || offset.isSome) && d.orderedOffset) = pads
    simp only [hd, Bool.not_false] at *
    have horder' := kept_padded_order pads (isEmpty_passPhrase (converter d) order) horder
    have hoffset' := kept_padded_offset pads hoffset
    rw [isSome_passExpr?] at hoffset'
    have hfront := (hctes.append hbody).append horder'
    cases limit with
    | none =>
      have hwindow := (((Kept.refl []).append hoffset').append hdetail).append hcount
      refine (hfront.append (hwindow.cons q)).congr ?_ (literals_query ..)
      exact (literals_query ..).trans rfl
    | some n =>
      have hkeeps : q.KeepsLiterals → literals (if fetch.isSome then spansOf fetched else []) = [] ∧
          (literals (spansOf (some n)) = [] ∨
            literals (spansOf offset ++ phraseSpans detail) = []) := by
        rintro (hnone | h)
        · exact absurd hnone (Option.some_ne_none n)
        · exact h
      have hwindow := Kept.swap (if fetch.isSome then spansOf fetched else [])
        (if fetch.isSome then gatherExpr? writtenQueries fetched else []) hkeeps hlimit
        (hoffset'.append hdetail)
      have h := hfront.append hwindow
      simp only [List.append_assoc] at h ⊢
      refine h.congr ?_ ?_
      · rw [literals_query]
        simp only [List.append_assoc]
        rfl
      · rw [literals_query]
        simp only [List.append_assoc]

-- Each case joins what the children give; only queries and expressions are changed themselves.
mutual

/-- A conversion keeps the literals of a part, as far as the queries inside of it keep theirs. -/
theorem Part.kept (d : Dialect) : ∀ x : Part,
    Kept (!d.acceptsLimit) (Part.spans (x.passM (converter d))) x.spans (x.gather writtenQueries)
  | .words _ => .refl _
  | .literal _ => .refl _
  | .expr e => Expr.kept d e
  | .query q => Query.kept d q
  | .source s => Source.kept d s
  | .late ps => kept_phrase d ps

theorem kept_phrase (d : Dialect) : ∀ ps : List Part,
    Kept (!d.acceptsLimit) (phraseSpans (passPhrase (converter d) ps)) (phraseSpans ps)
      (gatherPhrase writtenQueries ps)
  | [] => .refl _
  | x :: ps => (Part.kept d x).append (kept_phrase d ps)

/-- A conversion keeps the literals of an expression, as far as its queries do. -/
theorem Expr.kept (d : Dialect) : ∀ e : Expr,
    Kept (!d.acceptsLimit) (Expr.spans (e.passM (converter d))) e.spans (e.gather writtenQueries)
  | .ident i => .of_eq (literals_convertExpr d (.ident (i.requoteFor d)))
  | .compound is => .of_eq (literals_convertExpr d (.compound (is.map (Ident.requoteFor d))))
  | .value v => .of_eq (literals_convertExpr d (.value v))
  | .call name tail =>
    ((kept_phrase d tail).after (s := nameText name)).congr
      (literals_convertExpr d (.call name (passPhrase (converter d) tail))) rfl
  | .binary l operator r =>
    ((Expr.kept d l).append ((Expr.kept d r).after (s := " " ++ operator ++ " "))).congr
      (literals_convertExpr d
        (.binary (l.passM (converter d)) operator (r.passM (converter d)))) rfl
  | .subquery q =>
    ((Query.kept d q).after (s := "(")).before.congr
      (literals_convertExpr d (.subquery (q.passM (converter d)))) rfl
  | .form tight ps =>
    (kept_phrase d ps).congr
      (literals_convertExpr d (.form tight (passPhrase (converter d) ps))) rfl

theorem kept_expr? (d : Dialect) : ∀ e : Option Expr,
    Kept (!d.acceptsLimit) (spansOf (passExpr? (converter d) e)) (spansOf e)
      (gatherExpr? writtenQueries e)
  | none => .refl _
  | some e => Expr.kept d e

/-- A conversion keeps the literals of a query. They change their order only where a limit is
written behind the offset. -/
theorem Query.kept (d : Dialect) : ∀ q : Query,
    Kept (!d.acceptsLimit) (Query.spans (q.passM (converter d))) q.spans (q.gather writtenQueries)
  | .mk recursive ctes body order limit offset unit detail fetch fetched closing =>
    kept_query d recursive ctes body order limit offset unit detail fetch fetched closing
      (kept_ctes d ctes) (Body.kept d body) (kept_phrase d order) (kept_expr? d limit)
      (kept_expr? d offset) (kept_phrase d detail) (kept_expr? d fetched)

theorem kept_ctes (d : Dialect) : ∀ ctes : List Cte,
    Kept (!d.acceptsLimit) (cteSpans (passCtes (converter d) ctes)).flatten (cteSpans ctes).flatten
      (gatherCtes writtenQueries ctes)
  | [] => .refl _
  | .mk _ _ q _ :: ctes => (Query.kept d q).after.before.append (kept_ctes d ctes)

theorem Body.kept (d : Dialect) : ∀ b : Body,
    Kept (!d.acceptsLimit) (Body.spans (b.passM (converter d))) b.spans (b.gather writtenQueries)
  | .select s => Select.kept d s
  | .query q => (Query.kept d q).after.before
  | .setOperation l _ r => (Body.kept d l).append (Body.kept d r).after
  | .phrase ps => kept_phrase d ps

theorem Select.kept (d : Dialect) : ∀ s : Select,
    Kept (!d.acceptsLimit) (Select.spans (s.passM (converter d))) s.spans (s.gather writtenQueries)
  | .mk opening items target sources clauses => by
    have hitems := (kept_items d items).joined ", "
    have hsources : Kept (!d.acceptsLimit)
        (if List.isEmpty (α := Source) (passSources (converter d) sources) then []
          else .words " FROM " :: joinedSpans ", " (sourceSpans (passSources (converter d) sources)))
        (if sources.isEmpty then [] else .words " FROM " :: joinedSpans ", " (sourceSpans sources))
        (gatherSources writtenQueries sources) := by
      have h := (kept_sources d sources).joined ", "
      cases sources with
      | nil => exact h
      | cons s ss => exact h.after
    have hfront := ((kept_phrase d opening).after (s := "SELECT") (t := "SELECT")).append
      (hitems.after (s := " ") (t := " "))
    exact (hfront.append (hsources.after (s := target) (t := target))).append (kept_phrase d clauses)

theorem kept_items (d : Dialect) : ∀ items : List (Expr × Option Ident),
    Kept (!d.acceptsLimit) (itemSpans (passItems (converter d) items)).flatten
      (itemSpans items).flatten (gatherItems writtenQueries items)
  | [] => .refl _
  | (e, _) :: items => (Expr.kept d e).before.append (kept_items d items)

theorem kept_sources (d : Dialect) : ∀ ss : List Source,
    Kept (!d.acceptsLimit) (sourceSpans (passSources (converter d) ss)).flatten
      (sourceSpans ss).flatten (gatherSources writtenQueries ss)
  | [] => .refl _
  | s :: ss => (Source.kept d s).append (kept_sources d ss)

theorem Source.kept (d : Dialect) : ∀ s : Source,
    Kept (!d.acceptsLimit) (Source.spans (s.passM (converter d))) s.spans (s.gather writtenQueries)
  | .mk relation joins => (Relation.kept d relation).append (kept_joins d joins)

/-- A conversion keeps the literals of a relation, as far as its queries do. -/
theorem Relation.kept (d : Dialect) : ∀ r : Relation,
    Kept (!d.acceptsLimit) (Relation.spans (r.passM (converter d))) r.spans
      (r.gather writtenQueries)
  | .table _ _ detail _ tail => (kept_phrase d detail).after.append (kept_phrase d tail).after
  | .derived _ q _ => (Query.kept d q).after.before
  | .nested source _ => (Source.kept d source).after.before
  | .form ps _ _ => (kept_phrase d ps).before

theorem kept_joins (d : Dialect) : ∀ js : List Join,
    Kept (!d.acceptsLimit) (joinSpans (passJoins (converter d) js)) (joinSpans js)
      (gatherJoins writtenQueries js)
  | [] => .refl _
  | .mk _ relation condition :: js =>
    ((Relation.kept d relation).after.append (kept_phrase d condition)).append (kept_joins d js)

end

end

end DatasetSql.Statement

namespace DatasetSql

open Statement

/-- The literals of a converted statement are literals of the statement. They are the same in the same
order if the target has `LIMIT`, or if every query of the statement keeps its own in order. -/
theorem Statement.kept_converted (d : Dialect) (s : Statement) :
    Kept (!d.acceptsLimit) (s.converted d).spans s.spans (s.gather writtenQueries) := by
  rw [converted_eq_pass]
  cases s with
  | query q => exact Query.kept d q
  | command ps => exact kept_phrase d ps

/-- The text of a statement is the text of its spans. -/
theorem Statement.spansText_spans (s : Statement) : spansText s.spans = s.text := by
  cases s with
  | query q => exact Query.spansText_spans q
  | command ps => exact spansText_phraseSpans ps

end DatasetSql
