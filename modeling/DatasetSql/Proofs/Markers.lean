import DatasetSql.Edit.Conversion
import DatasetSql.Proofs.Composition
import DatasetSql.Proofs.Template

/-!
# Markers through a conversion

Some bare names of a statement are markers, and markers have numbers. A marker counts where it is an
expression by itself. `Statement.numbers` lists the numbers of these in the order in which they are
written, either with the page window as it stands or with the limit written as a `FETCH`.

The text of a converted statement is a template: it has a hole for every marker, in the order of
`Statement.numbers`, and does not depend on the names of the markers otherwise
(`Statement.prints_converted`).
-/

namespace DatasetSql.Statement

/-- Numbers for some of the bare identifiers. -/
structure Labels where
  number? : Ident → Option Nat
  bare : ∀ {i k}, number? i = some k → i.quote = none

/-- Gives the numbered identifiers names by their numbers. -/
def Labels.rename (L : Labels) (names : Nat → String) (i : Ident) : Ident :=
  match L.number? i with
  | some k => ⟨names k, none⟩
  | none => i

/-- What is gathered from a statement: from a name that is an expression by itself, and from the page
window of a query, whose limit, offset, detail and `FETCH` count are gathered before. -/
structure Gathering (α : Type) where
  name : Ident → List α
  window : Query → List α → List α → List α → List α → List α

section

variable {α : Type}

-- All that may hold an expression is gathered from in the order of writing.
mutual

/-- Gathers from a part of a phrase. -/
def Part.gather (G : Gathering α) : Part → List α
  | .words _ | .literal _ => []
  | .expr e => e.gather G
  | .query q => q.gather G
  | .source s => s.gather G
  | .late parts => gatherPhrase G parts

/-- Gathers from a phrase. -/
def gatherPhrase (G : Gathering α) : List Part → List α
  | [] => []
  | p :: ps => p.gather G ++ gatherPhrase G ps

/-- Gathers from an expression. -/
def Expr.gather (G : Gathering α) : Expr → List α
  | .ident i => G.name i
  | .compound _ | .value _ => []
  | .call _ tail => gatherPhrase G tail
  | .binary l _ r => l.gather G ++ r.gather G
  | .subquery q => q.gather G
  | .form _ parts => gatherPhrase G parts

/-- Gathers from an expression that may be left out. -/
def gatherExpr? (G : Gathering α) : Option Expr → List α
  | none => []
  | some e => e.gather G

/-- Gathers from a query. -/
def Query.gather (G : Gathering α) : Query → List α
  | q@(.mk _ ctes body order limit offset _ detail _ fetched _) =>
    gatherCtes G ctes ++ body.gather G ++ gatherPhrase G order ++
      G.window q (gatherExpr? G limit) (gatherExpr? G offset) (gatherPhrase G detail)
        (gatherExpr? G fetched)

/-- Gathers from common table expressions. -/
def gatherCtes (G : Gathering α) : List Cte → List α
  | [] => []
  | .mk _ _ q _ :: ctes => q.gather G ++ gatherCtes G ctes

/-- Gathers from the body of a query. -/
def Body.gather (G : Gathering α) : Body → List α
  | .select s => s.gather G
  | .query q => q.gather G
  | .setOperation l _ r => l.gather G ++ r.gather G
  | .phrase parts => gatherPhrase G parts

/-- Gathers from a `SELECT`. -/
def Select.gather (G : Gathering α) : Select → List α
  | .mk opening items _ sources clauses =>
    gatherPhrase G opening ++ gatherItems G items ++ gatherSources G sources ++
      gatherPhrase G clauses

/-- Gathers from the items of a select list. -/
def gatherItems (G : Gathering α) : List (Expr × Option Ident) → List α
  | [] => []
  | (e, _) :: items => e.gather G ++ gatherItems G items

/-- Gathers from the sources of a `FROM` clause. -/
def gatherSources (G : Gathering α) : List Source → List α
  | [] => []
  | s :: ss => s.gather G ++ gatherSources G ss

/-- Gathers from a source. -/
def Source.gather (G : Gathering α) : Source → List α
  | .mk relation joins => relation.gather G ++ gatherJoins G joins

/-- Gathers from a relation. -/
def Relation.gather (G : Gathering α) : Relation → List α
  | .table _ _ detail _ tail => gatherPhrase G detail ++ gatherPhrase G tail
  | .derived _ q _ => q.gather G
  | .nested source _ => source.gather G
  | .form parts _ _ => gatherPhrase G parts

/-- Gathers from joins. -/
def gatherJoins (G : Gathering α) : List Join → List α
  | [] => []
  | .mk _ relation condition :: js =>
    relation.gather G ++ gatherPhrase G condition ++ gatherJoins G js

end

end

/-- Whether a query has a limit. -/
def Query.limited : Query → Bool
  | .mk _ _ _ _ limit _ _ _ _ _ _ => limit.isSome

/-- Whether a query has a `FETCH`. -/
def Query.fetches : Query → Bool
  | .mk _ _ _ _ _ _ _ _ fetch _ _ => fetch.isSome

/-- The markers of a statement in the order of writing. Where the limit is written as a `FETCH`, it
comes last and leaves no room for another count. -/
def Labels.numbering (L : Labels) (fetching : Bool) : Gathering Nat where
  name i := (L.number? i).toList
  window q limit offset detail fetched :=
    if fetching && q.limited then offset ++ detail ++ limit
    else limit ++ offset ++ detail ++ if q.fetches then fetched else []

/-- The numbers of a query: with `FETCH` those of the limit come last, without it they come before
the offset. -/
theorem gather_numbering (L : Labels) (fetching recursive : Bool) (ctes : List Cte) (body : Body)
    (order : List Part) (limit offset : Option Expr) (unit : OffsetUnit) (detail : List Part)
    (fetch : Option FetchStyle) (fetched : Option Expr) (closing : String) :
    (Query.mk recursive ctes body order limit offset unit detail fetch fetched closing).gather
        (L.numbering fetching) =
      gatherCtes (L.numbering fetching) ctes ++ body.gather (L.numbering fetching) ++
        gatherPhrase (L.numbering fetching) order ++
        if fetching && limit.isSome then
          gatherExpr? (L.numbering fetching) offset ++ gatherPhrase (L.numbering fetching) detail ++
            gatherExpr? (L.numbering fetching) limit
        else
          gatherExpr? (L.numbering fetching) limit ++ gatherExpr? (L.numbering fetching) offset ++
            gatherPhrase (L.numbering fetching) detail ++
            if fetch.isSome then gatherExpr? (L.numbering fetching) fetched else [] := rfl

end DatasetSql.Statement

namespace DatasetSql

open Statement

/-- Gathers from a statement. -/
def Statement.gather {α : Type} (G : Gathering α) : Statement → List α
  | .query q => q.gather G
  | .command parts => gatherPhrase G parts

/-- The numbers of the markers of a statement, in the order of writing. -/
def Statement.numbers (L : Labels) (fetching : Bool) (s : Statement) : List Nat :=
  s.gather (L.numbering fetching)

/-- The statement with names for its markers. -/
def Statement.named (L : Labels) (names : Nat → String) (s : Statement) : Statement :=
  s.pass (naming id (L.rename names))

/-- A statement converted for a dialect. -/
def Statement.converted (d : Dialect) (s : Statement) : Statement :=
  (requoteNames d s).pass (Conversion.pass d)

end DatasetSql

namespace DatasetSql.Conversion

open Statement

/-- All targets but one have the marker of the input. -/
theorem placeholder_eq_sourceMarker {d : Dialect} (hd : d ≠ .duckdb) :
    d.placeholder = sourceMarker := by
  rw [Dialect.placeholder, if_neg (by simpa using hd)]
  rfl

/-- A text that is read is converted to the text of the converted statement, in which the markers of
the target are put back. -/
theorem convertSql_of_readOne {sql : String} {source : Option Dialect} {s : Statement}
    (hread : readOne (Text.replaceAll sourceMarker inertMarker sql) source = .ok s)
    (target : Dialect) : convertSql sql target source =
      .ok (Text.replaceAll inertMarker target.placeholder (s.converted target).text) := by
  rw [convertSql, hread]
  rfl

end DatasetSql.Conversion

namespace DatasetSql.Statement

open Template

/-! ## One pass for naming and converting -/

/-- The pass that requotes identifiers and converts all else. -/
def converter (d : Dialect) : Pass Id :=
  { ident := Ident.requoteFor d, expr := Conversion.convertExpr d, query := Conversion.convertQuery d }

/-- Requoting and converting is one pass. -/
theorem converted_eq_pass (d : Dialect) (s : Statement) :
    s.converted d = s.pass (converter d) := by
  have hpass : (Conversion.pass d).afterNaming (Ident.requoteFor d) id = converter d := by
    unfold Pass.afterNaming converter
    congr 1
    exact funext fun e => congrArg (Conversion.convertExpr d) (Expr.mapName_id e)
  rw [Statement.converted, requoteNames, ← naming_id, ← hpass]
  exact Statement.pass_naming (fun _ => rfl) s

/-- The pass that names markers and converts. -/
def converting (d : Dialect) (L : Labels) (names : Nat → String) : Pass Id where
  ident := Ident.requoteFor d
  expr e := Conversion.convertExpr d (e.mapName (L.rename names))
  query := Conversion.convertQuery d

/-- A bare identifier stays bare in every dialect. -/
theorem requoteFor_bare (d : Dialect) {i : Ident} (h : i.quote = none) : i.requoteFor d = i := by
  rw [Ident.requoteFor, h]

/-- Exchanging delimiters gives or takes no number. -/
theorem number?_requoteFor (d : Dialect) (L : Labels) (i : Ident) :
    L.number? (i.requoteFor d) = L.number? i := by
  cases hq : i.quote with
  | none => rw [requoteFor_bare d hq]
  | some q =>
    -- both identifiers are quoted, and a quoted identifier has no number
    have hquoted : (i.requoteFor d).quote ≠ none := by
      simp only [Ident.requoteFor, hq]
      split
      · exact Option.some_ne_none _
      · rw [hq]; exact Option.some_ne_none q
    have hnone : ∀ j : Ident, j.quote ≠ none → L.number? j = none := by
      intro j hj
      cases hk : L.number? j with
      | none => rfl
      | some k => exact absurd (L.bare hk) hj
    rw [hnone _ hquoted, hnone i (by simp [hq])]

/-- Renaming does not depend on the quotes. -/
theorem rename_requoteFor (d : Dialect) (L : Labels) (names : Nat → String) (i : Ident) :
    (L.rename names i).requoteFor d = L.rename names (i.requoteFor d) := by
  unfold Labels.rename
  rw [number?_requoteFor]
  cases L.number? i with
  | none => rfl
  | some k => rfl

/-- Naming the markers and converting is one pass. -/
theorem converted_named (d : Dialect) (L : Labels) (names : Nat → String) (s : Statement) :
    (s.named L names).converted d = s.pass (converting d L names) := by
  rw [converted_eq_pass, Statement.named,
    Statement.pass_naming fun i => rename_requoteFor d L names i]
  rfl

/-! ## The converted text as a template -/

section Prints

variable (d : Dialect) (L : Labels)

/-- An alias with the delimiters of a dialect. -/
def TableAlias.requoteFor (a : TableAlias) : TableAlias := { a with name := a.name.requoteFor d }

/-- What a function is called after a conversion depends on its name alone. -/
theorem exists_convertExpr_call (name : ObjectName) :
    ∃ name' : ObjectName, ∀ tail,
      Conversion.convertExpr d (.call name tail) = .call name' tail := by
  match name with
  | [⟨text, none⟩] =>
    cases h : d.functionName? text with
    | none => exact ⟨[⟨text, none⟩], fun tail => by simp only [Conversion.convertExpr, h]⟩
    | some renamed => exact ⟨[⟨renamed, none⟩], fun tail => by simp only [Conversion.convertExpr, h]⟩
  | [] => exact ⟨[], fun _ => rfl⟩
  | [⟨text, some q⟩] => exact ⟨[⟨text, some q⟩], fun _ => rfl⟩
  | i :: j :: is => exact ⟨i :: j :: is, fun tail => by simp [Conversion.convertExpr]⟩

/-- A marker prints its number, any other name none. -/
theorem prints_ident (i : Ident) :
    Prints (fun names => (L.rename names (i.requoteFor d)).text) (L.number? i).toList := by
  simp only [Labels.rename, number?_requoteFor]
  cases L.number? i with
  | none => exact .text (i.requoteFor d).text
  | some k => exact .hole k

/-- A text that is left out where there is nothing to say is a template if what is said is. -/
theorem prints_unless {f : (Nat → String) → String} {ks : List Nat} (silent : Bool)
    (hsilent : silent = true → ks = []) (hf : Prints f ks) :
    Prints (fun names => if silent then "" else f names) ks := by
  cases silent with
  | true => rw [hsilent rfl]; exact .text ""
  | false => exact hf

/-- A clause that may be left out is a template. -/
theorem prints_optional (before : String) {f : (Nat → String) → Option String} {ks : List Nat}
    (hf : PrintsOption f ks) : Prints (fun names => optional before (f names)) ks := by
  cases hf with
  | none => exact .text ""
  | some h => exact h.after before

/-- The offset is a template around that of its count. -/
theorem prints_offset (unit : OffsetUnit) {f : (Nat → String) → Option String} {ks : List Nat}
    (hf : PrintsOption f ks) :
    Prints (fun names => (f names).elim "" fun n => " OFFSET " ++ n ++ unit.text) ks := by
  cases hf with
  | none => exact .text ""
  | some h => exact (h.after " OFFSET ").before unit.text

/-- The `FETCH` clause is a template around that of its count. -/
theorem prints_fetch (fetch : Option FetchStyle) {f : (Nat → String) → Option String}
    {ks : List Nat} (hf : PrintsOption f ks) :
    Prints (fun names => fetch.elim "" (FetchStyle.text (f names)))
      (if fetch.isSome then ks else []) := by
  cases fetch with
  | none => exact .text ""
  | some style =>
    cases hf with
    | none => exact .text (FetchStyle.text none style)
    | some h =>
      exact ((((h.after " ").before (if style.percent then " PERCENT" else "")).after
        " FETCH FIRST").before " ROWS ").before (if style.withTies then "WITH TIES" else "ONLY")

/-- The text of a query is a template if the texts of what it holds are. -/
theorem prints_query {ctes : (Nat → String) → List Cte} {body : (Nat → String) → Body}
    {order detail : (Nat → String) → List Part}
    {limit offset fetched : (Nat → String) → Option Expr} {noCtes noOrder : Bool}
    {cs bs os ls fs ds ts : List Nat} (recursive : Bool) (unit : OffsetUnit)
    (fetch : Option FetchStyle) (closing : String)
    (hctes : PrintsAll (fun names => cteTexts (ctes names)) cs)
    (hnoCtes : ∀ names, (ctes names).isEmpty = noCtes) (hcs : noCtes = true → cs = [])
    (hbody : Prints (fun names => (body names).text) bs)
    (horder : Prints (fun names => phraseText (order names)) os)
    (hnoOrder : ∀ names, (order names).isEmpty = noOrder) (hos : noOrder = true → os = [])
    (hlimit : PrintsOption (fun names => exprText? (limit names)) ls)
    (hoffset : PrintsOption (fun names => exprText? (offset names)) fs)
    (hdetail : Prints (fun names => phraseText (detail names)) ds)
    (hfetched : PrintsOption (fun names => exprText? (fetched names)) ts) :
    Prints (fun names => (Query.mk recursive (ctes names) (body names) (order names) (limit names)
      (offset names) unit (detail names) fetch (fetched names) closing).text)
      (cs ++ bs ++ os ++ ls ++ fs ++ ds ++ if fetch.isSome then ts else []) := by
  have hwith := prints_unless noCtes hcs
    (((hctes.joined ", ").after (if recursive then "WITH RECURSIVE " else "WITH ")).before " ")
  have hsorted := prints_unless noOrder hos (horder.after " ORDER BY ")
  -- the limit is written before the offset, the fetch behind it
  have h := ((((((hwith.append hbody).append hsorted).append (prints_optional " LIMIT " hlimit)).append
    (prints_offset unit hoffset)).append hdetail).append (prints_fetch fetch hfetched)).before closing
  simpa only [Query.text, hnoCtes, hnoOrder] using h

/-- Where there is no `LIMIT`, the limit takes the place of the `FETCH` count; an order and an offset
may be put in that say nothing. -/
theorem convertQuery_eq (h : d.acceptsLimit = false) (recursive : Bool) (ctes : List Cte)
    (body : Body) (order : List Part) (limit offset : Option Expr) (unit : OffsetUnit)
    (detail : List Part) (fetch : Option FetchStyle) (fetched : Option Expr) (closing : String) :
    Conversion.convertQuery d
        (.mk recursive ctes body order limit offset unit detail fetch fetched closing) =
      let pads := (limit.isSome || fetch.isSome || offset.isSome) && d.orderedOffset
      .mk recursive ctes body (if pads && order.isEmpty then Conversion.nullOrder else order) none
        (if pads && !offset.isSome then some (.value (.number "0" false)) else offset)
        (if pads || offset.isSome then .rows else unit) detail
        (if limit.isSome then some {} else fetch) (if limit.isSome then limit else fetched)
        closing := by
  cases limit <;> cases offset <;> cases fetch <;> cases order <;> cases hp : d.orderedOffset <;>
    simp [Conversion.convertQuery, h, hp]

/-- A pass neither empties a phrase nor fills one. -/
theorem isEmpty_passPhrase (p : Pass Id) (ps : List Part) :
    List.isEmpty (α := Part) (passPhrase p ps) = ps.isEmpty := by
  cases ps with
  | nil => rfl
  | cons x ps => rfl

theorem isEmpty_passCtes (p : Pass Id) (ctes : List Cte) :
    List.isEmpty (α := Cte) (passCtes p ctes) = ctes.isEmpty := by
  cases ctes with
  | nil => rfl
  | cons c ctes => obtain ⟨a, materialized, q, origin⟩ := c; rfl

theorem isEmpty_passSources (p : Pass Id) (ss : List Source) :
    List.isEmpty (α := Source) (passSources p ss) = ss.isEmpty := by
  cases ss with
  | nil => rfl
  | cons s ss => rfl

theorem isSome_passExpr? (p : Pass Id) (e : Option Expr) :
    Option.isSome (α := Expr) (passExpr? p e) = e.isSome := by
  cases e with
  | none => rfl
  | some e => rfl

theorem gatherPhrase_of_isEmpty (G : Gathering Nat) {ps : List Part} (h : ps.isEmpty = true) :
    gatherPhrase G ps = [] := by
  rw [List.isEmpty_iff.1 h, gatherPhrase]

theorem gatherCtes_of_isEmpty (G : Gathering Nat) {ctes : List Cte} (h : ctes.isEmpty = true) :
    gatherCtes G ctes = [] := by
  rw [List.isEmpty_iff.1 h, gatherCtes]

theorem gatherSources_of_isEmpty (G : Gathering Nat) {ss : List Source} (h : ss.isEmpty = true) :
    gatherSources G ss = [] := by
  rw [List.isEmpty_iff.1 h, gatherSources]

/-- An order that is put in has no markers. -/
theorem prints_padded_order (pads : Bool) (p : (Nat → String) → Pass Id) (order : List Part)
    {G : Gathering Nat} (h : Prints (fun names => phraseText (passPhrase (p names) order))
      (gatherPhrase G order)) :
    Prints (fun names => phraseText (if pads && order.isEmpty then Conversion.nullOrder
      else passPhrase (p names) order)) (gatherPhrase G order) := by
  cases hpad : pads && order.isEmpty with
  | true =>
    rw [Bool.and_eq_true] at hpad
    rw [gatherPhrase_of_isEmpty G hpad.2]
    exact .text (phraseText Conversion.nullOrder)
  | false => exact h

/-- An offset that is put in has no markers. -/
theorem prints_padded_offset (pads : Bool) (p : (Nat → String) → Pass Id) (offset : Option Expr)
    {G : Gathering Nat} (h : PrintsOption (fun names => exprText? (passExpr? (p names) offset))
      (gatherExpr? G offset)) :
    PrintsOption (fun names => exprText? (if pads && !offset.isSome
      then some (.value (.number "0" false)) else passExpr? (p names) offset))
      (gatherExpr? G offset) := by
  cases offset with
  | some n => simpa using h
  | none =>
    cases pads with
    | true => exact .some (.text (Expr.value (.number "0" false)).text)
    | false => exact h

/-- The text of a converted query is a template if the converted texts of what it holds are. -/
theorem prints_converting_query (recursive : Bool) (ctes : List Cte) (body : Body)
    (order : List Part) (limit offset : Option Expr) (unit : OffsetUnit) (detail : List Part)
    (fetch : Option FetchStyle) (fetched : Option Expr) (closing : String)
    (hctes : PrintsAll (fun names => cteTexts (passCtes (converting d L names) ctes))
      (gatherCtes (L.numbering !d.acceptsLimit) ctes))
    (hbody : Prints (fun names => Body.text (body.passM (converting d L names)))
      (body.gather (L.numbering !d.acceptsLimit)))
    (horder : Prints (fun names => phraseText (passPhrase (converting d L names) order))
      (gatherPhrase (L.numbering !d.acceptsLimit) order))
    (hlimit : PrintsOption (fun names => exprText? (passExpr? (converting d L names) limit))
      (gatherExpr? (L.numbering !d.acceptsLimit) limit))
    (hoffset : PrintsOption (fun names => exprText? (passExpr? (converting d L names) offset))
      (gatherExpr? (L.numbering !d.acceptsLimit) offset))
    (hdetail : Prints (fun names => phraseText (passPhrase (converting d L names) detail))
      (gatherPhrase (L.numbering !d.acceptsLimit) detail))
    (hfetched : PrintsOption (fun names => exprText? (passExpr? (converting d L names) fetched))
      (gatherExpr? (L.numbering !d.acceptsLimit) fetched)) :
    Prints (fun names => Query.text ((Query.mk recursive ctes body order limit offset unit detail
      fetch fetched closing).passM (converting d L names)))
      ((Query.mk recursive ctes body order limit offset unit detail fetch fetched closing).gather
        (L.numbering !d.acceptsLimit)) := by
  show Prints (fun names => Query.text (Conversion.convertQuery d (.mk recursive
    (passCtes (converting d L names) ctes) (body.passM (converting d L names))
    (passPhrase (converting d L names) order) (passExpr? (converting d L names) limit)
    (passExpr? (converting d L names) offset) unit (passPhrase (converting d L names) detail) fetch
    (passExpr? (converting d L names) fetched) closing))) _
  cases hd : d.acceptsLimit with
  | true =>
    -- the query stays as it is
    simp only [Conversion.convertQuery, hd, if_true]
    simp only [hd] at *
    have h := prints_query recursive unit fetch closing hctes
      (fun names => isEmpty_passCtes (converting d L names) ctes) (gatherCtes_of_isEmpty _) hbody
      horder (fun names => isEmpty_passPhrase (converting d L names) order)
      (gatherPhrase_of_isEmpty _) hlimit hoffset hdetail hfetched
    simpa only [gather_numbering, Bool.not_true, Bool.false_and, Bool.false_eq_true,
      if_false, List.append_assoc] using h
  | false =>
    simp only [convertQuery_eq d hd, isEmpty_passPhrase, isSome_passExpr?]
    generalize ((limit.isSome || fetch.isSome || offset.isSome) && d.orderedOffset) = pads
    simp only [hd] at *
    have hcount : PrintsOption (fun names => exprText? (if limit.isSome
        then passExpr? (converting d L names) limit else passExpr? (converting d L names) fetched))
        (if limit.isSome then gatherExpr? (L.numbering true) limit
          else gatherExpr? (L.numbering true) fetched) := by
      cases limit with
      | none => exact hfetched
      | some n => exact hlimit
    have hnoLimit : PrintsOption (fun _ => exprText? none) [] := .none
    have hnoOrder (names : Nat → String) : List.isEmpty (α := Part) (if pads && order.isEmpty
        then Conversion.nullOrder else passPhrase (converting d L names) order) =
        (!pads && order.isEmpty) := by
      cases pads <;> cases order <;> rfl
    have hos (h : (!pads && order.isEmpty) = true) : gatherPhrase (L.numbering true) order = [] :=
      gatherPhrase_of_isEmpty (L.numbering true) (Bool.and_eq_true_iff.1 h).2
    have h := prints_query recursive (if pads || offset.isSome then .rows else unit)
      (if limit.isSome then some {} else fetch) closing hctes
      (fun names => isEmpty_passCtes (converting d L names) ctes) (gatherCtes_of_isEmpty _) hbody
      (prints_padded_order pads _ order horder) hnoOrder hos hnoLimit
      (prints_padded_offset pads _ offset hoffset) hdetail hcount
    cases limit with
    | none =>
      simpa [gather_numbering, gatherExpr?] using h
    | some n =>
      simpa [gather_numbering, gatherExpr?] using h

-- The induction follows the tree: each case appends the templates of the children in the order in
-- which the text does, so the holes come in the order of `numbers`.
mutual

/-- The text of a converted part is a template of the names of its markers. -/
theorem Part.prints_converting : ∀ x : Part,
    Prints (fun names => Part.text (x.passM (converting d L names)))
      (x.gather (L.numbering !d.acceptsLimit))
  | .words s => .text s
  | .literal v => .text v.text
  | .expr e => Expr.prints_converting e
  | .query q => Query.prints_converting q
  | .source s => Source.prints_converting s
  | .late ps => prints_convertingPhrase ps

theorem prints_convertingPhrase : ∀ ps : List Part,
    Prints (fun names => phraseText (passPhrase (converting d L names) ps))
      (gatherPhrase (L.numbering !d.acceptsLimit) ps)
  | [] => .text ""
  | x :: ps => (Part.prints_converting x).append (prints_convertingPhrase ps)

/-- The text of a converted expression is a template, whose holes are its markers in their order. -/
theorem Expr.prints_converting : ∀ e : Expr,
    Prints (fun names => Expr.text (e.passM (converting d L names)))
      (e.gather (L.numbering !d.acceptsLimit))
  | .ident i => prints_ident d L i
  | .compound is => .text (nameText (is.map (Ident.requoteFor d)))
  | .value v => .text (Conversion.convertExpr d (.value v)).text
  | .call name tail => by
    obtain ⟨name', hname⟩ := exists_convertExpr_call d name
    have h := (prints_convertingPhrase tail).after (nameText name')
    show Prints (fun names => Expr.text (Conversion.convertExpr d
      (.call name (passPhrase (converting d L names) tail)))) _
    simp only [hname]
    exact h
  | .binary l operator r =>
    ((((Expr.prints_converting l).before " ").before operator).before " ").append
      (Expr.prints_converting r)
  | .subquery q => ((Query.prints_converting q).after "(").before ")"
  | .form _ ps => prints_convertingPhrase ps

theorem prints_convertingExpr? : ∀ e : Option Expr,
    PrintsOption (fun names => exprText? (passExpr? (converting d L names) e))
      (gatherExpr? (L.numbering !d.acceptsLimit) e)
  | none => .none
  | some e => .some (Expr.prints_converting e)

/-- The text of a converted query is a template. The order of its holes depends on where the target
writes a limit. -/
theorem Query.prints_converting : ∀ q : Query,
    Prints (fun names => Query.text (q.passM (converting d L names)))
      (q.gather (L.numbering !d.acceptsLimit))
  | .mk recursive ctes body order limit offset unit detail fetch fetched closing =>
    prints_converting_query d L recursive ctes body order limit offset unit detail fetch fetched
      closing (prints_convertingCtes ctes) (Body.prints_converting body)
      (prints_convertingPhrase order) (prints_convertingExpr? limit)
      (prints_convertingExpr? offset) (prints_convertingPhrase detail)
      (prints_convertingExpr? fetched)

theorem prints_convertingCtes : ∀ ctes : List Cte,
    PrintsAll (fun names => cteTexts (passCtes (converting d L names) ctes))
      (gatherCtes (L.numbering !d.acceptsLimit) ctes)
  | [] => .nil
  | .mk a materialized q origin :: ctes =>
    .cons ((((Query.prints_converting q).after
        ((a.requoteFor d).text ++ " AS " ++ materialized ++ "(")).before ")").before
          (optional " FROM " (origin.map Ident.text))) (prints_convertingCtes ctes)

theorem Body.prints_converting : ∀ b : Body,
    Prints (fun names => Body.text (b.passM (converting d L names)))
      (b.gather (L.numbering !d.acceptsLimit))
  | .select s => Select.prints_converting s
  | .query q => ((Query.prints_converting q).after "(").before ")"
  | .setOperation l operator r =>
    ((((Body.prints_converting l).before " ").before operator).before " ").append
      (Body.prints_converting r)
  | .phrase ps => prints_convertingPhrase ps

theorem Select.prints_converting : ∀ s : Select,
    Prints (fun names => Select.text (s.passM (converting d L names)))
      (s.gather (L.numbering !d.acceptsLimit))
  | .mk opening items target sources clauses => by
    have hopening := ((prints_convertingPhrase opening).after "SELECT").before " "
    have hitems := ((prints_convertingItems items).joined ", ").before target
    have hfrom := prints_unless sources.isEmpty (gatherSources_of_isEmpty _)
      (((prints_convertingSources sources).joined ", ").after " FROM ")
    have h := ((hopening.append hitems).append hfrom).append (prints_convertingPhrase clauses)
    show Prints (fun names => Select.text (.mk (passPhrase (converting d L names) opening)
      (passItems (converting d L names) items) target (passSources (converting d L names) sources)
      (passPhrase (converting d L names) clauses))) _
    simpa only [Select.text, Select.gather, isEmpty_passSources, String.append_assoc] using h

theorem prints_convertingItems : ∀ items : List (Expr × Option Ident),
    PrintsAll (fun names => itemTexts (passItems (converting d L names) items))
      (gatherItems (L.numbering !d.acceptsLimit) items)
  | [] => .nil
  | (e, a) :: items =>
    .cons ((Expr.prints_converting e).before
      (optional " AS " ((a.map (Ident.requoteFor d)).map Ident.text))) (prints_convertingItems items)

theorem prints_convertingSources : ∀ ss : List Source,
    PrintsAll (fun names => sourceTexts (passSources (converting d L names) ss))
      (gatherSources (L.numbering !d.acceptsLimit) ss)
  | [] => .nil
  | s :: ss => .cons (Source.prints_converting s) (prints_convertingSources ss)

theorem Source.prints_converting : ∀ s : Source,
    Prints (fun names => Source.text (s.passM (converting d L names)))
      (s.gather (L.numbering !d.acceptsLimit))
  | .mk relation joins =>
    (Relation.prints_converting relation).append (prints_convertingJoins joins)

theorem Relation.prints_converting : ∀ r : Relation,
    Prints (fun names => Relation.text (r.passM (converting d L names)))
      (r.gather (L.numbering !d.acceptsLimit))
  | .table name isCall detail a tail =>
    (((prints_convertingPhrase detail).after
        (nameText (if isCall then name else name.map (Ident.requoteFor d)))).before
        (aliasText (a.map (TableAlias.requoteFor d)))).append
      (prints_convertingPhrase tail)
  | .derived lateral q a =>
    (((Query.prints_converting q).after ((if lateral then "LATERAL " else "") ++ "(")).before
      ")").before (aliasText (a.map (TableAlias.requoteFor d)))
  | .nested source a =>
    (((Source.prints_converting source).after "(").before ")").before (aliasText a)
  | .form ps a tail => ((prints_convertingPhrase ps).before (aliasText a)).before tail

theorem prints_convertingJoins : ∀ js : List Join,
    Prints (fun names => joinTexts (passJoins (converting d L names) js))
      (gatherJoins (L.numbering !d.acceptsLimit) js)
  | [] => .text ""
  | .mk words relation condition :: js =>
    (((Relation.prints_converting relation).after (words ++ " ")).append
      (prints_convertingPhrase condition)).append (prints_convertingJoins js)

end

end Prints

end DatasetSql.Statement

namespace DatasetSql

open Statement

/-- The text of a converted statement has a hole for every marker. -/
theorem Statement.prints_converted (d : Dialect) (L : Labels) (s : Statement) :
    Template.Prints (fun names => ((s.named L names).converted d).text)
      (s.numbers L !d.acceptsLimit) := by
  simp only [converted_named]
  cases s with
  | query q => exact Query.prints_converting d L q
  | command ps => exact prints_convertingPhrase d L ps

end DatasetSql
