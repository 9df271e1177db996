import DatasetSql.Proofs.Listing

/-!
# Items and tables that are read back

An item of a select list and a table are read as they were written exactly if they are clean. A name
that is not clean changes where the next lexeme starts, but the reader has then taken another name
already, and keeps it.
-/

open DatasetSql.Statement.Parser

namespace DatasetSql.Statement

variable {g : Grammar} {rest : List Char} {ls t : List Lexeme}

/-! ## Names with qualifiers -/

theorem dottedChars_cons (n : Name g) (ns : List (Name g)) (rest : List Char) :
    dottedChars (n :: ns) ++ rest = '.' :: (n.ident.text.toList ++ (dottedChars ns ++ rest)) := by
  simp [dottedChars]

/-- A name after a dot opens as a name does. -/
theorem canLex_dottedChars_cons {n : Name g} {ns : List (Name g)}
    (hls : CanLex g (dottedChars (n :: ns) ++ rest) ls) : ∃ l tail,
      ls = .symbol "." :: l :: tail ∧ OpensName l ∧
        CanLex g (n.ident.text.toList ++ (dottedChars ns ++ rest)) (l :: tail) := by
  rw [dottedChars_cons] at hls
  obtain ⟨tail, rfl, htail⟩ := (n.cuts_dot _).canLex hls
  obtain ⟨l, tail, rfl, hl⟩ := Name.canLex_opening htail
  exact ⟨l, tail, rfl, hl, htail⟩

/-- The part that was read is the next part of the name, if the reader gives the name. -/
theorem eq_ident_of_prefix {parts : List Ident} {i : Ident} {n : Name g} {ns : List (Name g)}
    (h : parts ++ [i] <+: parts ++ (n :: ns).map Name.ident) : i = n.ident := by
  rw [List.prefix_append_right_inj, List.map_cons, List.cons_prefix_cons] at h
  exact h.1

/-- A qualified name that is read as it was written has clean parts. -/
theorem clean_of_dottedName {ns : List (Name g)} (hrest : Ends rest)
    (hls : CanLex g (dottedChars ns ++ rest) ls) {m : Nat} {parts : List Ident} {wildcard : Bool}
    (h : dottedName g m parts ls = .ok ((parts ++ ns.map Name.ident, wildcard), t)) :
    ∀ n ∈ ns, n.Clean := by
  induction ns generalizing m parts ls with
  | nil => exact fun n hn => nomatch hn
  | cons n ns ih =>
    obtain ⟨l, tail, rfl, hl, htail⟩ := canLex_dottedChars_cons hls
    cases m with
    | zero => cases h
    | succ m =>
      cases hl with
      | symbol q hq => rcases hq with rfl | rfl | rfl <;> cases h
      | word s q =>
        have h : dottedName g m (parts ++ [⟨s, some q⟩]) tail =
          .ok ((parts ++ (n :: ns).map Name.ident, wildcard), t) := h
        -- the name that was read is the next of the list, so its text was read back
        have hn := eq_ident_of_prefix (prefix_of_dottedName h)
        obtain ⟨hclean, htail⟩ := Name.clean_and_canLex (ends_dottedChars hrest ns) hn htail
        rw [hn, List.map_cons, List.append_cons parts n.ident (ns.map Name.ident)] at h
        exact List.forall_mem_cons.2 ⟨hclean, ih htail h⟩

theorem clean_of_nameTail {ns : List (Name g)} (hrest : Ends rest)
    (hls : CanLex g (dottedChars ns ++ rest) ls) {doubleDots : Bool} {m : Nat} {parts : List Ident}
    (h : nameTail doubleDots m parts ls = .ok (parts ++ ns.map Name.ident, t)) :
    ∀ n ∈ ns, n.Clean := by
  induction ns generalizing m parts ls with
  | nil => exact fun n hn => nomatch hn
  | cons n ns ih =>
    obtain ⟨l, tail, rfl, hl, htail⟩ := canLex_dottedChars_cons hls
    cases m with
    | zero => cases h
    | succ m =>
      cases hl with
      | symbol q hq =>
        rw [nameTail] at h
        rcases hq with rfl | rfl | rfl <;> cases doubleDots <;> cases hp : parts.length == 1 <;>
          simp only [hp] at h <;> cases h
      | word s q =>
        have h : nameTail doubleDots m (parts ++ [⟨s, some q⟩]) tail =
            .ok (parts ++ (n :: ns).map Name.ident, t) := by
          rw [← h, nameTail]
          cases doubleDots <;> cases parts.length == 1 <;> rfl
        -- as for columns: what was read is the next name of the list
        have hn := eq_ident_of_prefix (prefix_of_nameTail h)
        obtain ⟨hclean, htail⟩ := Name.clean_and_canLex (ends_dottedChars hrest ns) hn htail
        rw [hn, List.map_cons, List.append_cons parts n.ident (ns.map Name.ident)] at h
        exact List.forall_mem_cons.2 ⟨hclean, ih htail h⟩

/-! ## Expressions -/

/-- No plain expression is composed. -/
theorem PlainExpr.not_composed (e : PlainExpr g) : ¬ Composed e.tree := by
  rcases e with ⟨n, _ | ⟨m, ns⟩⟩ | s <;> exact not_false

/-- A column that is read back is clean. -/
theorem clean_of_columnFrom {n : Name g} {ns : List (Name g)} (hrest : Ends rest) {s : String}
    {q : Char} (hls : CanLex g (n.ident.text.toList ++ (dottedChars ns ++ rest))
      (quotedWord q s :: ls))
    (h : ColumnFrom g ⟨s, some q⟩ ls (columnOf ((n :: ns).map Name.ident)) t) :
    ∀ m ∈ n :: ns, m.Clean := by
  have hends := ends_dottedChars hrest ns
  -- one name, a dotted name, or something composed, which a column is not
  rcases h with ⟨he, -⟩ | ⟨parts, m, he, hparts⟩ | h
  · cases ns with
    | nil =>
      obtain ⟨hclean, -⟩ := Name.clean_and_canLex hends (Expr.ident.inj he).symm hls
      exact List.forall_mem_singleton.2 hclean
    | cons m ns => cases he
  · cases ns with
    | nil => cases he
    | cons k ns =>
      obtain rfl := Expr.compound.inj he
      obtain ⟨hn, -⟩ := List.cons_prefix_cons.1 (prefix_of_dottedName hparts)
      obtain ⟨hclean, htail⟩ := Name.clean_and_canLex hends hn hls
      rw [hn] at hparts
      exact List.forall_mem_cons.2 ⟨hclean, clean_of_dottedName hrest htail hparts⟩
  · exact absurd h (PlainExpr.column n ns).not_composed

/-- A plain expression is read at every level, if something stops it. -/
theorem PlainExpr.exprLevel_lexemes (e : PlainExpr g) (r : Nested) (strength : Nat)
    {rest : List Lexeme} (h : Stops rest) :
    exprLevel g r strength (e.lexemes ++ rest) = .ok (e.tree, rest) := by
  refine exprLevel_of_operandFrom r strength h fun m => ?_
  cases e with
  | column n ns => exact operandFrom_dotted r m n ns h
  | string s => exact operandFrom_string r m s h

/-- A plain expression that is read as it was written is clean. Anything else would be composed, or
other names. -/
theorem PlainExpr.clean_of_exprLevel {e : PlainExpr g} (hrest : Ends rest)
    (hls : CanLex g (e.chars ++ rest) ls) {r : Nested} {strength : Nat}
    (h : exprLevel g r strength ls = .ok (e.tree, t)) : e.Clean := by
  obtain ⟨m, h⟩ := (exprLevel_eq_ok h).resolve_right e.not_composed
  cases e with
  | column n ns =>
    rw [chars, List.append_assoc] at hls
    obtain ⟨l, tail, rfl, hl⟩ := Name.canLex_opening hls
    cases hl with
    | word s q => exact clean_of_columnFrom hrest hls (columnFrom_operandFrom h)
    | symbol q hq => exact absurd (operandFrom_quote hq h) (column n ns).not_composed
  | string s =>
    obtain ⟨v, tail, rfl⟩ := canLex_string_opening hls
    obtain ⟨hv, -⟩ := (operandFrom_literal h).resolve_right (string s).not_composed
    obtain rfl := Expr.value.inj hv
    exact cleanString_of_canLex hrest hls

/-! ## Items -/

/-- The name after the word of an alias. -/
theorem clean_of_optionalAlias {n : Name g} (hrest : Ends rest) {reserved : List String}
    (hls : CanLex g (n.ident.text.toList ++ rest) ls)
    (h : optionalAlias reserved (bareWord "AS" :: ls) = .ok (some n.ident, t)) : n.Clean := by
  obtain ⟨l, tail, rfl, hl⟩ := Name.canLex_opening hls
  cases hl with
  | symbol q hq => rcases hq with rfl | rfl | rfl <;> cases h
  | word s q =>
    have h : (pure (some ⟨s, some q⟩) : Parser (Option Ident)) tail = .ok (some n.ident, t) := h
    obtain ⟨hn, -⟩ := Prod.mk.inj (Except.ok.inj h)
    exact Name.clean_of_canLex hrest (Option.some.inj hn) hls

/-- How items are written. -/
def itemForm (g : Grammar) : Form (PlainItem g) (Expr × Option Ident) :=
  ⟨PlainItem.chars, PlainItem.lexemes, PlainItem.tree, PlainItem.Clean⟩

theorem PlainItem.item_lexemes {r r' : Nested} (hr : anyExpr r = exprLevel g r' 0) (i : PlainItem g)
    {rest : List Lexeme} (h : EndsItem rest) : item g r (i.lexemes ++ rest) = .ok (i.tree, rest) := by
  obtain ⟨e, asName, hname⟩ := i
  cases e with
  | column n ns =>
    have hlexemes : PlainItem.lexemes ⟨.column n ns, asName, hname⟩ ++ rest =
        n.lexeme :: (dotted ns ++ (aliasLexemes asName ++ rest)) := by
      simp [lexemes, PlainExpr.lexemes]
    rw [hlexemes]
    exact item_column hr n ns asName h
  | string s => exact item_string hr s asName h

theorem PlainItem.clean_of_item {r r' : Nested} (hr : anyExpr r = exprLevel g r' 0) {i : PlainItem g}
    (hrest : Ends rest) (hls : CanLex g (i.chars ++ rest) ls)
    (h : item g r ls = .ok (i.tree, t)) : i.Clean := by
  have hends := ends_aliasChars hrest i.asName
  rw [chars, List.append_assoc] at hls
  obtain ⟨t₁, he, halias⟩ := item_eq_ok h i.expr.not_composed fun hg => by rw [i.unnamed hg]; rfl
  rw [hr] at he
  have hexpr := PlainExpr.clean_of_exprLevel hends hls he
  refine ⟨hexpr, fun n hn => ?_⟩
  -- the expression is clean, so it is known where the alias starts
  obtain ⟨tail, rfl, htail⟩ := (hexpr.cuts hends).canLex hls
  rw [Option.mem_def.1 hn, aliasChars, List.append_assoc] at htail
  obtain ⟨after, rfl, hafter⟩ := (cuts_as _).canLex htail
  have he' := i.expr.exprLevel_lexemes r' 0 (.as after)
  obtain rfl : t₁ = bareWord "AS" :: after := (Prod.mk.inj (Except.ok.inj (he.symm.trans he'))).2
  rw [Option.mem_def.1 hn] at halias
  exact clean_of_optionalAlias hrest hafter halias

/-- Items are read back exactly if they are clean. -/
theorem readBack_item {r r' : Nested} (hr : anyExpr r = exprLevel g r' 0) :
    ReadBack g (item g r) (itemForm g) EndsItem where
  cuts h hrest := PlainItem.Clean.cuts h hrest
  reads _ h := PlainItem.item_lexemes hr _ h
  clean := PlainItem.clean_of_item hr
  opens i rest := by
    rcases i with ⟨⟨n, ns⟩ | s, asName, _⟩ <;> rfl
  comma := .comma

/-! ## Tables -/

/-- A text that is not cut at its dots has none. -/
theorem splitOn_eq_singleton_iff {s part : List Char} :
    s.splitOn '.' = [part] ↔ s = part ∧ '.' ∉ part := by
  constructor
  · intro h
    have hjoined : ['.'].intercalate (s.splitOn '.') = s := List.intercalate_splitOn '.'
    obtain rfl : part = s := by simpa [h] using hjoined
    refine ⟨rfl, fun hdot => ?_⟩
    obtain ⟨before, after, hs⟩ := List.append_of_mem hdot
    have hlength := congrArg List.length h
    rw [hs, List.splitOn_append_cons_self, List.length_append] at hlength
    have hbefore := List.length_pos_iff.2 (List.splitOn_ne_nil '.' before)
    have hafter := List.length_pos_iff.2 (List.splitOn_ne_nil '.' after)
    rw [List.length_singleton] at hlength
    omega
  · rintro ⟨rfl, hdot⟩
    exact List.splitOn_eq_singleton hdot

/-- A name is not split exactly if it has no dot. -/
theorem splitAtDots_eq_singleton_iff {i j : Ident} :
    splitAtDots i = [j] ↔ i = j ∧ '.' ∉ j.value.toList := by
  rw [splitAtDots, List.map_eq_singleton_iff]
  constructor
  · rintro ⟨part, hpart, rfl⟩
    obtain ⟨rfl, hdot⟩ := splitOn_eq_singleton_iff.1 hpart
    simpa using hdot
  · rintro ⟨rfl, hdot⟩
    exact ⟨i.value.toList, splitOn_eq_singleton_iff.2 ⟨rfl, hdot⟩, by simp⟩

/-- Where names may have hyphens, each part is split at its dots. -/
theorem nameParts_eq_flatMap (hg : g.hyphenatedNames = true) (parts : List Ident) :
    nameParts g parts = parts.flatMap splitAtDots :=
  if_pos hg

theorem nameParts_eq_self (hg : g.hyphenatedNames = false) (parts : List Ident) :
    nameParts g parts = parts :=
  if_neg (Bool.eq_false_iff.1 hg)

/-- A name of one part that is read back is clean, and its part holds no others. -/
theorem clean_of_hyphenatedFrom {n : Name g} (hrest : Ends rest)
    (hls : CanLex g (n.ident.text.toList ++ rest) ls) {m : Nat} {parts : List Ident}
    (h : hyphenatedFrom m ls = .ok (parts, t)) (hparts : parts.flatMap splitAtDots = [n.ident]) :
    n.Clean ∧ '.' ∉ n.value.toList := by
  obtain ⟨l, tail, rfl, hl⟩ := Name.canLex_opening hls
  cases m with
  | zero => cases h
  | succ m =>
    cases hl with
    | symbol q hq => rcases hq with rfl | rfl | rfl <;> cases h
    | word s q =>
      have hfirst : ∃ more, parts = ⟨s, some q⟩ :: more := by
        have h : (do
            if ← symbol "." then return ⟨s, some q⟩ :: (← hyphenatedFrom m)
            else return [⟨s, some q⟩] : Parser (List Ident)) tail = .ok (parts, t) := h
        obtain ⟨dot, t₁, -, h⟩ := Parser.bind_eq_ok.1 h
        cases dot with
        | true =>
          obtain ⟨more, t₂, -, h⟩ := Parser.bind_eq_ok.1 h
          exact ⟨more, (Prod.mk.inj (Except.ok.inj h)).1.symm⟩
        | false => exact ⟨[], (Prod.mk.inj (Except.ok.inj h)).1.symm⟩
      obtain ⟨more, rfl⟩ := hfirst
      -- a name that is cut at its dots would give more than one
      have hone : splitAtDots ⟨s, some q⟩ = [n.ident] := by
        rw [List.flatMap_cons, List.append_eq_singleton_iff] at hparts
        rcases hparts with ⟨hnil, -⟩ | ⟨hone, -⟩
        · exact absurd (List.map_eq_nil_iff.1 hnil) (List.splitOn_ne_nil '.' _)
        · exact hone
      obtain ⟨hn, hdot⟩ := splitAtDots_eq_singleton_iff.1 hone
      exact ⟨Name.clean_of_canLex hrest hn hls, hdot⟩

/-- A name that is read back has clean parts, and no part holds others. -/
theorem PlainTable.clean_of_tableName {s : PlainTable g} (hrest : Ends rest)
    (hls : CanLex g (s.name.ident.text.toList ++ (dottedChars s.more ++ rest)) ls)
    (h : tableName g ls = .ok (s.idents, t)) :
    (∀ n ∈ s.name :: s.more, n.Clean) ∧
      (g.hyphenatedNames = true → '.' ∉ s.name.value.toList) := by
  -- where names may have hyphens, parts are cut at dots afterwards
  cases hg : g.hyphenatedNames with
  | true =>
    rw [tableName, if_pos hg, bind_of_ok rfl] at h
    obtain ⟨parts, t₁, hfrom, h⟩ := Parser.bind_eq_ok.1 h
    have hparts : nameParts g parts = s.idents := (Prod.mk.inj (Except.ok.inj h)).1
    rw [idents, s.whole hg, nameParts_eq_flatMap hg] at hparts
    rw [s.whole hg] at hls ⊢
    obtain ⟨hclean, hdot⟩ := clean_of_hyphenatedFrom hrest hls hfrom hparts
    exact ⟨List.forall_mem_singleton.2 hclean, fun _ => hdot⟩
  | false =>
    refine ⟨?_, fun hg => absurd hg Bool.false_ne_true⟩
    rw [tableName, if_neg (Bool.eq_false_iff.1 hg)] at h
    obtain ⟨l, tail, rfl, hl⟩ := Name.canLex_opening hls
    cases hl with
    | symbol q hq => rcases hq with rfl | rfl | rfl <;> cases h
    | word w q =>
      rw [objectName, bind_of_ok rfl, bind_of_ok rfl] at h
      obtain ⟨parts, t₁, htail, h⟩ := Parser.bind_eq_ok.1 h
      have hparts : nameParts g parts = s.idents := (Prod.mk.inj (Except.ok.inj h)).1
      rw [nameParts_eq_self hg] at hparts
      rw [hparts] at htail
      obtain ⟨hn, -⟩ := List.cons_prefix_cons.1 (prefix_of_nameTail htail)
      obtain ⟨hclean, hcan⟩ := Name.clean_and_canLex (ends_dottedChars hrest s.more) hn hls
      rw [hn] at htail
      exact List.forall_mem_cons.2 ⟨hclean, clean_of_nameTail hrest hcan htail⟩

/-- How tables are written. -/
def tableForm (g : Grammar) : Form (PlainTable g) Source :=
  ⟨PlainTable.chars, PlainTable.lexemes, PlainTable.tree, PlainTable.Clean⟩

/-- The name of a table is read as its parts, unless a dot inside of it splits one. -/
theorem PlainTable.nameParts_idents {s : PlainTable g}
    (h : g.hyphenatedNames = true → '.' ∉ s.name.value.toList) :
    nameParts g s.idents = s.idents := by
  cases hg : g.hyphenatedNames with
  | false => exact nameParts_eq_self hg _
  | true =>
    have hone : splitAtDots s.name.ident = [s.name.ident] :=
      splitAtDots_eq_singleton_iff.2 ⟨rfl, h hg⟩
    rw [nameParts_eq_flatMap hg, idents, s.whole hg, List.map_singleton, List.flatMap_singleton, hone]

theorem PlainTable.lexemes_append (s : PlainTable g) (rest : List Lexeme) : s.lexemes ++ rest =
    s.name.lexeme :: (dotted s.more ++ (aliasLexemes s.asName ++ rest)) := by
  simp [lexemes]

/-- The lexemes of a clean table are read as that table. -/
theorem PlainTable.Clean.source_lexemes {s : PlainTable g} (h : s.Clean) (r : Nested)
    {rest : List Lexeme} (hrest : EndsTable rest) :
    source g r (s.lexemes ++ rest) = .ok (s.tree, rest) := by
  rw [lexemes_append, source_dotted r s.name s.asName s.whole hrest, ← idents,
    nameParts_idents h.whole]
  rfl

/-- A source that a name opens is a table by name. -/
theorem namedTable_of_source {r : Nested} {l : Lexeme} (hl : OpensName l) {relation : Relation}
    (h : source g r (l :: ls) = .ok (.mk relation [], t)) :
    ∃ t, namedTable g r (l :: ls) = .ok (relation, t) := by
  rw [source, bind_of_ok rfl, sourceFrom] at h
  obtain ⟨relation', t₁, hrelation, h⟩ := Parser.bind_eq_ok.1 h
  obtain ⟨joins, t₂, -, h⟩ := Parser.bind_eq_ok.1 h
  obtain ⟨rfl, -⟩ := Source.mk.inj (Prod.mk.inj (Except.ok.inj h)).1
  refine ⟨t₁, Eq.trans ?_ hrelation⟩
  cases hl with
  | word s q => cases g <;> rfl
  | symbol q hq => rcases hq with rfl | rfl | rfl <;> cases g <;> rfl

theorem clean_of_tableAlias {n : Name g} (hrest : Ends rest)
    (hls : CanLex g (n.ident.text.toList ++ rest) ls) {columns : List String}
    (h : tableAlias g (bareWord "AS" :: ls) = .ok (some ⟨n.ident, columns⟩, t)) : n.Clean := by
  obtain ⟨asName, t₁, hname, h⟩ := Parser.bind_eq_ok.1 h
  cases asName with
  | none => cases (Prod.mk.inj (Except.ok.inj h)).1
  | some i =>
    obtain ⟨columns', t₂, -, h⟩ := Parser.bind_eq_ok.1 h
    have halias := Option.some.inj (Prod.mk.inj (Except.ok.inj h)).1
    obtain ⟨rfl, -⟩ := TableAlias.mk.inj halias
    exact clean_of_optionalAlias hrest hls hname

/-- A table that is read as it was written is clean. -/
theorem PlainTable.clean_of_source {r : Nested} {s : PlainTable g} (hrest : Ends rest)
    (hls : CanLex g (s.chars ++ rest) ls) (h : source g r ls = .ok (s.tree, t)) : s.Clean := by
  have hends := ends_aliasChars hrest s.asName
  rw [chars, List.append_assoc, List.append_assoc] at hls
  obtain ⟨l, tail, rfl, hl⟩ := Name.canLex_opening hls
  obtain ⟨t₁, htable⟩ := namedTable_of_source hl h
  obtain ⟨t₂, hname⟩ := namedTable_eq_ok htable
  obtain ⟨hclean, hwhole⟩ := clean_of_tableName hends hls hname
  refine ⟨hclean, fun n hn => ?_, hwhole⟩
  -- the name is clean, so it is known where the alias starts
  obtain ⟨hfirst, hmore⟩ := List.forall_mem_cons.1 hclean
  have hcuts := (hfirst.cuts (ends_dottedChars hends s.more)).trans (cuts_dottedChars hends hmore)
  obtain ⟨tail, heq, htail⟩ := hcuts.canLex hls
  rw [Option.mem_def.1 hn, aliasChars, List.append_assoc] at htail
  obtain ⟨after, rfl, hafter⟩ := (cuts_as _).canLex htail
  have hread := tableName_dotted s.name s.whole (.as after)
  rw [heq, List.append_assoc, List.singleton_append, List.singleton_append,
    namedTable_eq_aliasedTable hread (.as after)] at htable
  obtain ⟨-, t₃, halias⟩ := aliasedTable_eq_ok htable
  rw [Option.mem_def.1 hn] at halias
  exact clean_of_tableAlias hrest hafter halias

/-- Tables are read back exactly if they are clean. -/
theorem readBack_table (r : Nested) : ReadBack g (source g r) (tableForm g) EndsTable where
  cuts h hrest := PlainTable.Clean.cuts h hrest
  reads h hrest := PlainTable.Clean.source_lexemes h r hrest
  clean := PlainTable.clean_of_source
  opens _ _ := rfl
  comma := .comma

end DatasetSql.Statement
