import DatasetSql.Proofs.Outcome
import DatasetSql.Proofs.SelectParts

/-!
# Reading plain selects back

The text of a plain select is read as the select again exactly if the select is clean.
-/

open DatasetSql.Statement.Parser

namespace DatasetSql.Statement

variable {g : Grammar} {r r' : Nested} {ls t : List Lexeme}

/-! ## Select lists and tables -/

/-- The lexemes that a select list opens with. -/
def OpensItem (l : Lexeme) : Prop := OpensName l ∨ ∃ v, l = .literal v

/-- No word stands between a select list and the word before it. -/
theorem selectOpening_of_opensItem {l : Lexeme} (h : OpensItem l) (ls : List Lexeme) :
    selectOpening g r (l :: ls) = .ok ([], l :: ls) := by
  rcases h with (⟨s, q⟩ | ⟨q, rfl | rfl | rfl⟩) | ⟨v, rfl⟩ <;> cases g <;> rfl

/-- What ends a select list. -/
inductive EndsItems : List Lexeme → Prop where
  | nil : EndsItems []
  | source (ls : List Lexeme) : EndsItems (bareWord "FROM" :: ls)

/-- Whatever ends a select list ends its last item. -/
theorem EndsItems.endsItem (h : EndsItems ls) : EndsItem ls := by
  cases h with
  | nil => exact .nil
  | source ls => exact .source ls

theorem EndsItems.symbol_comma (h : EndsItems ls) : symbol "," ls = .ok (false, ls) := by
  cases h <;> rfl

/-- The sources of a select end its list of items. -/
theorem endsItems_sourceLexemes (ts : List (PlainTable g)) : EndsItems (sourceLexemes ts) := by
  cases ts with
  | nil => exact .nil
  | cons t ts => exact .source _

/-- Whatever is cut from the sources ends the list of items. -/
theorem endsItems_of_canLex {ts : List (PlainTable g)} (h : CanLex g (sourceChars ts) ls) :
    EndsItems ls := by
  cases ts with
  | nil =>
    obtain rfl := canLex_nil h
    exact .nil
  | cons t ts =>
    obtain ⟨tail, rfl, -⟩ := (cuts_from _).canLex h
    exact .source tail

/-- Whatever is cut from an item first is what an item may open with. -/
theorem PlainItem.canLex_opening {i : PlainItem g} {rest : List Char}
    (h : CanLex g (i.chars ++ rest) ls) : ∃ l tail, ls = l :: tail ∧ OpensItem l := by
  rw [chars, List.append_assoc] at h
  cases he : i.expr with
  | column n ns =>
    rw [he, PlainExpr.chars, List.append_assoc] at h
    obtain ⟨l, tail, rfl, hl⟩ := Name.canLex_opening h
    exact ⟨l, tail, rfl, .inl hl⟩
  | string s =>
    rw [he, PlainExpr.chars] at h
    obtain ⟨v, tail, rfl⟩ := canLex_string_opening h
    exact ⟨.literal v, tail, rfl, .inr ⟨v, rfl⟩⟩

/-- Reads what follows a select list. -/
def selectTail (g : Grammar) (r : Nested) (opening : Phrase) (items : List (Expr × Option Ident)) :
    Parser Select := do
  let target ← selectTarget g
  let relations ← if ← keyword "FROM" then sources g r else pure []
  return .mk opening items target relations (← selectClauses g r)

/-- What opens an item is no word that stands before the items of a select. -/
theorem select_of_opensItem {l : Lexeme} (h : OpensItem l) (ls : List Lexeme) :
    select g r (l :: ls) =
      (separated (trailingItems g) (item g r) >>= selectTail g r []) (l :: ls) := by
  rw [select, bind_of_ok (selectOpening_of_opensItem h ls)]
  rfl

/-- What follows a select list leaves it as it is. -/
theorem always_selectTail (opening : Phrase) (items : List (Expr × Option Ident)) :
    Always (fun s => ∃ target relations clauses, s = .mk opening items target relations clauses)
      (selectTail g r opening items) := by
  refine .bind fun target => .bind fun some => .ite ?_ ?_
  · exact .bind fun relations => .bind fun clauses => .pure ⟨_, _, _, rfl⟩
  · exact .bind fun relations => .bind fun clauses => .pure ⟨_, _, _, rfl⟩

theorem selectTail_nil (opening : Phrase) (items : List (Expr × Option Ident)) :
    selectTail g r opening items [] = .ok (.mk opening items "" [] [], []) := by
  cases g <;> rfl

theorem selectTail_from (opening : Phrase) (items : List (Expr × Option Ident)) (ls : List Lexeme) :
    selectTail g r opening items (bareWord "FROM" :: ls) = (do
      let relations ← sources g r
      return Select.mk opening items "" relations (← selectClauses g r)) ls :=
  rfl

theorem selectClauses_nil : selectClauses g r [] = .ok ([], []) := by
  cases g <;> rfl

theorem PlainItem.lexemes_opening (i : PlainItem g) (rest : List Lexeme) :
    ∃ l tail, i.lexemes ++ rest = l :: tail ∧ OpensItem l := by
  rcases i with ⟨⟨n, ns⟩ | s, asName, _⟩
  · exact ⟨_, _, rfl, .inl (.word n.value n.quote)⟩
  · exact ⟨_, _, rfl, .inr ⟨.string s, rfl⟩⟩

/-- The sources of a clean select are read up to the end. -/
theorem selectTail_sourceLexemes {ts : List (PlainTable g)} (h : ∀ t ∈ ts, t.Clean)
    (opening : Phrase) (items : List (Expr × Option Ident)) :
    selectTail g r opening items (sourceLexemes ts) =
      .ok (.mk opening items "" (ts.map PlainTable.tree) [], []) := by
  cases ts with
  | nil => exact selectTail_nil opening items
  | cons t ts =>
    have hsources : sources g r (t.lexemes ++ (moreLexemes PlainTable.lexemes ts ++ [])) =
        .ok ((t :: ts).map PlainTable.tree, []) :=
      (readBack_table r).separated_lexemes (trailingCommas g) .nil rfl h
    rw [List.append_nil] at hsources
    rw [sourceLexemes, selectTail_from, bind_of_ok hsources, bind_of_ok selectClauses_nil]
    rfl

/-- The lexemes of a clean select are read as that select. -/
theorem PlainSelect.Clean.select_lexemes {p : PlainSelect g} (h : p.Clean)
    (hr : anyExpr r = exprLevel g r' 0) : select g r p.lexemes = .ok (p.tree, []) := by
  have hitems : separated (trailingItems g) (Parser.item g r) p.lexemes =
      .ok ((p.item :: p.items).map PlainItem.tree, sourceLexemes p.tables) :=
    have hends := endsItems_sourceLexemes p.tables
    (readBack_item hr).separated_lexemes _ hends.endsItem hends.symbol_comma h.items
  obtain ⟨l, tail, hl, hopens⟩ := p.item.lexemes_opening
    (moreLexemes PlainItem.lexemes p.items ++ sourceLexemes p.tables)
  rw [lexemes, hl] at hitems ⊢
  rw [select_of_opensItem hopens, bind_of_ok hitems, selectTail_sourceLexemes h.tables]
  rfl

/-- Sources that are read as they were written are clean. -/
theorem clean_of_selectTail {ts : List (PlainTable g)} {opening opening' : Phrase}
    {items items' : List (Expr × Option Ident)} {target : String} {clauses : Phrase}
    (hls : CanLex g (sourceChars ts) ls)
    (h : selectTail g r opening items ls =
      .ok (.mk opening' items' target (ts.map PlainTable.tree) clauses, t)) : ∀ t ∈ ts, t.Clean := by
  cases ts with
  | nil => exact fun t ht => nomatch ht
  | cons s ts =>
    have hfrom : CanLex g (" FROM ".toList ++ (s.chars ++ moreChars PlainTable.chars ts)) ls := hls
    -- the text starts with the keyword, so the list of tables was read
    obtain ⟨tail, rfl, htail⟩ := (cuts_from _).canLex hfrom
    rw [List.singleton_append, selectTail_from] at h
    obtain ⟨relations, t₁, hsources, h⟩ := Parser.bind_eq_ok.1 h
    obtain ⟨clauses', t₂, -, h⟩ := Parser.bind_eq_ok.1 h
    obtain ⟨-, -, -, rfl, -⟩ := Select.mk.inj (Prod.mk.inj (Except.ok.inj h)).1
    rw [← List.append_nil (moreChars PlainTable.chars ts)] at htail
    exact (readBack_table r).clean_of_separated (trailingCommas g) ends_nil htail hsources

/-- A select that is read as it was written is clean. -/
theorem PlainSelect.clean_of_select {p : PlainSelect g} (hr : anyExpr r = exprLevel g r' 0)
    (hls : CanLex g p.chars ls) (h : select g r ls = .ok (p.tree, t)) : p.Clean := by
  obtain ⟨l, tail, rfl, hl⟩ := PlainItem.canLex_opening hls
  rw [select_of_opensItem hl] at h
  obtain ⟨items, t₁, hitems, h⟩ := Parser.bind_eq_ok.1 h
  obtain ⟨target, relations, clauses, htree⟩ := always_selectTail [] items _ _ _ h
  obtain ⟨-, rfl, -⟩ := Select.mk.inj htree
  have hclean : ∀ i ∈ p.item :: p.items, i.Clean :=
    (readBack_item hr).clean_of_separated _ (ends_sourceChars _) hls hitems
  -- the select list is clean, so it is known where the tables start
  obtain ⟨after, hsplit, hafter⟩ := (cuts_items hclean).canLex hls
  have hends := endsItems_of_canLex hafter
  have hread := (readBack_item hr).separated_lexemes (trailingItems g) hends.endsItem
    hends.symbol_comma hclean
  rw [hsplit, List.append_assoc] at hitems
  obtain rfl : t₁ = after := (Prod.mk.inj (Except.ok.inj (hitems.symm.trans hread))).2
  exact ⟨hclean, clean_of_selectTail hafter h⟩

/-! ## Bodies and queries -/

theorem bodyOperand_select (ls : List Lexeme) :
    bodyOperand g r (bareWord "SELECT" :: ls) = (do return Body.select (← select g r)) ls :=
  rfl

theorem bodyFrom_none (m strength : Nat) (ls : List Lexeme) : bodyFrom g r (m + 1) strength none ls =
    (bodyOperand g r >>= fun b => bodyFrom g r m strength (some b)) ls :=
  rfl

/-- A body that is a select is the operand that was read first. -/
theorem eq_of_bodyFrom {m strength : Nat} {b : Body} {s : Select}
    (h : bodyFrom g r m strength (some b) ls = .ok (.select s, t)) : b = .select s := by
  induction m generalizing b ls with
  | zero => cases h
  | succ m ih =>
    obtain ⟨operator, t₁, -, h⟩ := Parser.bind_eq_ok.1 h
    cases operator with
    | none => exact (Prod.mk.inj (Except.ok.inj h)).1
    | some operator =>
      dsimp only at h
      split_ifs at h
      · exact (Prod.mk.inj (Except.ok.inj h)).1
      · obtain ⟨_, t₂, -, h⟩ := Parser.bind_eq_ok.1 h
        obtain ⟨quantifier, t₃, -, h⟩ := Parser.bind_eq_ok.1 h
        obtain ⟨right, t₄, -, h⟩ := Parser.bind_eq_ok.1 h
        -- behind an operator the body is a set operation, never a plain select
        cases ih h

theorem body_of_select {s : Select} (h : select g r ls = .ok (s, [])) :
    body g r (bareWord "SELECT" :: ls) = .ok (.select s, []) := by
  have hoperand : bodyOperand g r (bareWord "SELECT" :: ls) = .ok (.select s, []) := by
    rw [bodyOperand_select, bind_of_ok h]
    rfl
  rw [body, bind_of_ok rfl, bodyFrom_none, bind_of_ok hoperand]
  rfl

/-- A body that is a select was read as one. -/
theorem select_of_body {s : Select}
    (h : body g r (bareWord "SELECT" :: ls) = .ok (.select s, t)) :
    ∃ t, select g r ls = .ok (s, t) := by
  rw [body, bind_of_ok rfl, bodyFrom_none] at h
  obtain ⟨b, t₁, hoperand, h⟩ := Parser.bind_eq_ok.1 h
  obtain rfl := eq_of_bodyFrom h
  rw [bodyOperand_select] at hoperand
  obtain ⟨s', t₂, hselect, hoperand⟩ := Parser.bind_eq_ok.1 hoperand
  obtain ⟨hs, -⟩ := Prod.mk.inj (Except.ok.inj hoperand)
  obtain rfl := Body.select.inj hs
  exact ⟨t₂, hselect⟩

theorem queryLevel_select (insert update : Parser Phrase) (ls : List Lexeme) :
    queryLevel g r insert update (bareWord "SELECT" :: ls) =
      (body g r >>= queryTail g r false []) (bareWord "SELECT" :: ls) :=
  rfl

theorem queryTail_nil (b : Body) : queryTail g r false [] b [] = .ok (plainQuery b, []) := by
  cases g <;> rfl

/-- What follows a body leaves it as it is. -/
theorem always_queryTail (recursive : Bool) (ctes : List Cte) (b : Body) :
    Always (fun q => ∃ order limit offset unit detail fetch fetched closing,
      q = .mk recursive ctes b order limit offset unit detail fetch fetched closing)
      (queryTail g r recursive ctes b) := by
  refine .bind fun order => .bind fun first => .bind fun page => .ite ?_ ?_
  · refine .bind fun groups => .bind fun settings => .bind fun fetch => .bind fun closing => .pure ?_
    exact ⟨_, _, _, _, _, _, _, _, rfl⟩
  · refine .bind fun groups => .bind fun settings => .bind fun fetch => .bind fun closing => .pure ?_
    exact ⟨_, _, _, _, _, _, _, _, rfl⟩

/-- A select alone is a query. -/
theorem queryLevel_of_select {insert update : Parser Phrase} {s : Select}
    (h : select g r ls = .ok (s, [])) :
    queryLevel g r insert update (bareWord "SELECT" :: ls) = .ok (plainQuery (.select s), []) := by
  rw [queryLevel_select, bind_of_ok (body_of_select h), queryTail_nil]

/-- A query that is a plain select was read as one. -/
theorem select_of_queryLevel {insert update : Parser Phrase} {s : Select}
    (h : queryLevel g r insert update (bareWord "SELECT" :: ls) = .ok (plainQuery (.select s), t)) :
    ∃ t, select g r ls = .ok (s, t) := by
  rw [queryLevel_select] at h
  obtain ⟨b, t₁, hbody, h⟩ := Parser.bind_eq_ok.1 h
  obtain ⟨_, _, _, _, _, _, _, _, hquery⟩ := always_queryTail false [] b _ _ _ h
  obtain ⟨-, -, rfl, -⟩ := Query.mk.inj hquery
  exact select_of_body hbody

/-! ## Statements -/

section Statements

variable {statement : Parser Statement} {s : Statement} {m : Nat}

theorem statementList_select (ls : List Lexeme) :
    statementList statement (m + 1) true (bareWord "SELECT" :: ls) = (do
      let s ← statement
      return s :: (← statementList statement m false)) (bareWord "SELECT" :: ls) :=
  rfl

/-- A statement that is read up to the end is the only one. -/
theorem statementList_of_statement (h : statement (bareWord "SELECT" :: ls) = .ok (s, [])) :
    statementList statement (m + 2) true (bareWord "SELECT" :: ls) = .ok ([s], []) := by
  rw [statementList_select, bind_of_ok h]
  rfl

/-- A list of one statement was read as that statement. -/
theorem statement_of_statementList
    (h : statementList statement m true (bareWord "SELECT" :: ls) = .ok ([s], t)) :
    ∃ t, statement (bareWord "SELECT" :: ls) = .ok (s, t) := by
  cases m with
  | zero => cases h
  | succ m =>
    rw [statementList_select] at h
    obtain ⟨s', t₁, hstatement, h⟩ := Parser.bind_eq_ok.1 h
    obtain ⟨more, t₂, -, h⟩ := Parser.bind_eq_ok.1 h
    obtain ⟨hs, -⟩ := Prod.mk.inj (Except.ok.inj h)
    obtain ⟨rfl, -⟩ := List.cons.inj hs
    exact ⟨t₁, hstatement⟩

end Statements

/-- A statement that a select opens is a query, two levels further inside. -/
theorem statement_select (depth : Nat) (ls : List Lexeme) :
    (nested g false (depth + 2)).statement (bareWord "SELECT" :: ls) = (do
      return Statement.query (← queryLevel g (nested g false depth)
        (insert g (nested g false depth)) (update g (nested g false depth))))
      (bareWord "SELECT" :: ls) :=
  rfl

/-- One level down, an expression is read with the nesting that is left. -/
theorem anyExpr_nested (depth : Nat) :
    anyExpr (nested g false (depth + 1)) = exprLevel g (nested g false depth) 0 :=
  rfl

/-- A text that is cut into lexemes is parsed as the list of its statements. -/
theorem parseAll_of_lex {text : String} (h : lex g text = some ls) : parseAll g text =
    (statementList (nested g false maxDepth).statement (ls.length + 1) true ls).map (·.1) := by
  rw [parseAll, runOn, h]
  rfl

/-- The text of a clean select is read as that select. -/
theorem PlainSelect.Clean.parseAll_text {p : PlainSelect g} (h : p.Clean) :
    parseAll g p.statement.text = .ok [p.statement] := by
  have hselect := h.select_lexemes (anyExpr_nested 47)
  have hstatement : (nested g false maxDepth).statement (bareWord "SELECT" :: p.lexemes) =
      .ok (p.statement, []) := by
    rw [maxDepth, statement_select 48, bind_of_ok (queryLevel_of_select hselect)]
    rfl
  rw [parseAll_of_lex h.lex_text, List.length_cons, statementList_of_statement hstatement]
  rfl

/-- A select whose text is read as that select is clean. -/
theorem PlainSelect.clean_of_parseAll {p : PlainSelect g}
    (h : parseAll g p.statement.text = .ok [p.statement]) : p.Clean := by
  cases hlex : lex g p.statement.text with
  | none =>
    rw [parseAll, runOn, hlex] at h
    cases h
  | some ls =>
    have hls := canLex_of_lex hlex
    rw [toList_text] at hls
    obtain ⟨tail, rfl, htail⟩ := (cuts_select _).canLex hls
    rw [parseAll_of_lex hlex] at h
    obtain ⟨t, hlist⟩ := map_fst_eq_ok.1 h
    -- from the list of statements down to the select, each reader gives back the same tree
    obtain ⟨t₁, hstatement⟩ := statement_of_statementList hlist
    rw [maxDepth, statement_select 48] at hstatement
    obtain ⟨q, t₂, hquery, hstatement⟩ := Parser.bind_eq_ok.1 hstatement
    obtain ⟨hq, -⟩ := Prod.mk.inj (Except.ok.inj hstatement)
    obtain rfl := Statement.query.inj hq
    obtain ⟨t₃, hselect⟩ := select_of_queryLevel hquery
    exact clean_of_select (anyExpr_nested 47) htail hselect

/-- The text of a plain select is read as the select exactly if the select is clean. -/
theorem PlainSelect.parseAll_text_iff (p : PlainSelect g) :
    parseAll g p.statement.text = .ok [p.statement] ↔ p.Clean :=
  ⟨clean_of_parseAll, Clean.parseAll_text⟩

end DatasetSql.Statement
