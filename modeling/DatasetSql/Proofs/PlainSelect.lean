import DatasetSql.Proofs.Reading
import DatasetSql.Statement.Printer

/-!
# Plain selects

Statements that select columns and strings from tables by name, with delimiters around every name.
Their text is read back exactly if every name and every string is clean.
-/

namespace DatasetSql.Statement

variable {g : Grammar}

/-! ## Trees -/

/-- A column with its qualifiers, or a string. -/
inductive PlainExpr (g : Grammar) where
  | column (name : Name g) (more : List (Name g))
  | string (text : String)

/-- An item of a select list. One grammar has two ways to write an alias, so there is none. -/
structure PlainItem (g : Grammar) where
  expr : PlainExpr g
  asName : Option (Name g)
  unnamed : g = .tsql → asName = none

/-- A table. Where an identifier may hold several parts of a name, the name is one identifier. -/
structure PlainTable (g : Grammar) where
  name : Name g
  more : List (Name g)
  asName : Option (Name g)
  whole : g.hyphenatedNames = true → more = []

/-- A select list with at least one item, and the tables it is taken from. -/
structure PlainSelect (g : Grammar) where
  item : PlainItem g
  items : List (PlainItem g)
  tables : List (PlainTable g)

/-- The expression. -/
def PlainExpr.tree : PlainExpr g → Expr
  | .column n ns => Parser.columnOf ((n :: ns).map Name.ident)
  | .string s => .value (.string s)

/-- The item as the select list has it. -/
def PlainItem.tree (i : PlainItem g) : Expr × Option Ident := (i.expr.tree, i.asName.map Name.ident)

/-- The identifiers of the name of a table. -/
def PlainTable.idents (t : PlainTable g) : ObjectName := (t.name :: t.more).map Name.ident

/-- The table as a source. -/
def PlainTable.tree (t : PlainTable g) : Source :=
  .mk (.table t.idents false [] (t.asName.map fun n => ⟨n.ident, []⟩) []) []

/-- The select without anything else. -/
def PlainSelect.tree (p : PlainSelect g) : Select :=
  .mk [] ((p.item :: p.items).map PlainItem.tree) "" (p.tables.map PlainTable.tree) []

/-- The select as a statement. -/
def PlainSelect.statement (p : PlainSelect g) : Statement :=
  .query (Parser.plainQuery (.select p.tree))

/-! ## Clean selects -/

/-- Whether an expression is read as it was written. -/
def PlainExpr.Clean : PlainExpr g → Prop
  | .column n ns => ∀ m ∈ n :: ns, m.Clean
  | .string s => CleanString g s

/-- Whether an item is read as it was written. -/
structure PlainItem.Clean (i : PlainItem g) : Prop where
  expr : i.expr.Clean
  asName : ∀ n ∈ i.asName, n.Clean

/-- Whether a table is read as it was written; the identifier must not hold several parts. -/
structure PlainTable.Clean (t : PlainTable g) : Prop where
  name : ∀ n ∈ t.name :: t.more, n.Clean
  asName : ∀ n ∈ t.asName, n.Clean
  whole : g.hyphenatedNames = true → '.' ∉ t.name.value.toList

/-- Whether a select is read as it was written. -/
structure PlainSelect.Clean (p : PlainSelect g) : Prop where
  items : ∀ i ∈ p.item :: p.items, i.Clean
  tables : ∀ t ∈ p.tables, t.Clean

instance : (e : PlainExpr g) → Decidable e.Clean
  | .column n ns => inferInstanceAs (Decidable (∀ m ∈ n :: ns, m.Clean))
  | .string s => inferInstanceAs (Decidable (CleanString g s))

instance (i : PlainItem g) : Decidable i.Clean :=
  decidable_of_iff (i.expr.Clean ∧ ∀ n ∈ i.asName, n.Clean)
    ⟨fun h => ⟨h.1, h.2⟩, fun h => ⟨h.expr, h.asName⟩⟩

instance (t : PlainTable g) : Decidable t.Clean :=
  decidable_of_iff ((∀ n ∈ t.name :: t.more, n.Clean) ∧ (∀ n ∈ t.asName, n.Clean) ∧
      (g.hyphenatedNames = true → '.' ∉ t.name.value.toList))
    ⟨fun h => ⟨h.1, h.2.1, h.2.2⟩, fun h => ⟨h.name, h.asName, h.whole⟩⟩

instance (p : PlainSelect g) : Decidable p.Clean :=
  decidable_of_iff ((∀ i ∈ p.item :: p.items, i.Clean) ∧ ∀ t ∈ p.tables, t.Clean)
    ⟨fun h => ⟨h.1, h.2⟩, fun h => ⟨h.items, h.tables⟩⟩

/-! ## Texts -/

/-- The characters of the parts of a name after the first. -/
def dottedChars (ns : List (Name g)) : List Char := ns.flatMap fun n => '.' :: n.ident.text.toList

/-- The characters of an alias. -/
def aliasChars : Option (Name g) → List Char
  | some n => " AS ".toList ++ n.ident.text.toList
  | none => []

/-- The characters of the members of a list after the first. -/
def moreChars {α : Type} (chars : α → List Char) (as : List α) : List Char :=
  as.flatMap fun a => ',' :: ' ' :: chars a

/-- The characters of an expression. -/
def PlainExpr.chars : PlainExpr g → List Char
  | .column n ns => n.ident.text.toList ++ dottedChars ns
  | .string s => (Value.string s).text.toList

/-- The characters of an item. -/
def PlainItem.chars (i : PlainItem g) : List Char := i.expr.chars ++ aliasChars i.asName

/-- The characters of a table. -/
def PlainTable.chars (t : PlainTable g) : List Char :=
  t.name.ident.text.toList ++ (dottedChars t.more ++ aliasChars t.asName)

/-- The characters of the tables, with the word before them. -/
def sourceChars : List (PlainTable g) → List Char
  | [] => []
  | t :: ts => " FROM ".toList ++ (t.chars ++ moreChars PlainTable.chars ts)

/-- The characters of a select after its first word. -/
def PlainSelect.chars (p : PlainSelect g) : List Char :=
  p.item.chars ++ (moreChars PlainItem.chars p.items ++ sourceChars p.tables)

/-- Joined texts are the first one and, for each other, the separator and it. -/
theorem toList_joined (sep s : String) (ss : List String) :
    (Text.joined sep (s :: ss)).toList = s.toList ++ ss.flatMap fun t => sep.toList ++ t.toList := by
  induction ss generalizing s with
  | nil => simp [Text.joined]
  | cons t ss ih =>
    have hjoined : Text.joined sep (s :: t :: ss) = s ++ sep ++ Text.joined sep (t :: ss) := by
      simp [Text.joined]
    rw [hjoined]
    simp [ih]

/-- A qualified name is written with dots between its parts. -/
theorem toList_nameText (n : Name g) (ns : List (Name g)) :
    (nameText ((n :: ns).map Name.ident)).toList = n.ident.text.toList ++ dottedChars ns := by
  rw [nameText, List.map_cons, List.map_cons, toList_joined, List.flatMap_map, List.flatMap_map]
  rfl

theorem PlainExpr.toList_text (e : PlainExpr g) : e.tree.text.toList = e.chars := by
  cases e with
  | string s => rw [tree, Expr.text, chars]
  | column n ns =>
    cases ns with
    | nil => simp [tree, Parser.columnOf, Expr.text, chars, dottedChars]
    | cons m ns => exact toList_nameText n (m :: ns)

theorem toList_itemText (i : PlainItem g) :
    (i.tree.1.text ++ optional " AS " (i.tree.2.map Ident.text)).toList = i.chars := by
  rw [PlainItem.tree, PlainItem.chars, String.toList_append, PlainExpr.toList_text]
  cases i.asName with
  | none => rfl
  | some n => simp [optional, aliasChars]

theorem PlainTable.toList_text (t : PlainTable g) : t.tree.text.toList = t.chars := by
  obtain ⟨n, ns, asName, -⟩ := t
  cases asName with
  | none =>
    simp [tree, idents, Source.text, Relation.text, joinTexts, phraseText, aliasText, chars,
      aliasChars, -List.map_cons, toList_nameText]
  | some m =>
    simp [tree, idents, Source.text, Relation.text, joinTexts, phraseText, aliasText,
      TableAlias.text, chars, aliasChars, -List.map_cons, toList_nameText]

theorem itemTexts_eq (is : List (PlainItem g)) : itemTexts (is.map PlainItem.tree) =
    is.map fun i => i.tree.1.text ++ optional " AS " (i.tree.2.map Ident.text) := by
  induction is with
  | nil => simp [itemTexts]
  | cons i is ih => rw [List.map_cons, List.map_cons, itemTexts, ih]

theorem sourceTexts_eq (ts : List (PlainTable g)) :
    sourceTexts (ts.map PlainTable.tree) = ts.map fun t => t.tree.text := by
  induction ts with
  | nil => simp [sourceTexts]
  | cons t ts ih => rw [List.map_cons, List.map_cons, sourceTexts, ih]

/-- The text of a plain select. -/
theorem PlainSelect.toList_text (p : PlainSelect g) :
    p.statement.text.toList = "SELECT ".toList ++ p.chars := by
  have hitems : (Text.joined ", " (itemTexts ((p.item :: p.items).map PlainItem.tree))).toList =
      p.item.chars ++ moreChars PlainItem.chars p.items := by
    rw [itemTexts_eq, List.map_cons, toList_joined, toList_itemText, List.flatMap_map]
    simp only [toList_itemText]
    rfl
  have htables : (if (p.tables.map PlainTable.tree).isEmpty then ""
      else " FROM " ++ Text.joined ", " (sourceTexts (p.tables.map PlainTable.tree))).toList =
        sourceChars p.tables := by
    rw [sourceTexts_eq]
    cases p.tables with
    | nil => rfl
    | cons t ts =>
      rw [List.map_cons, List.isEmpty_cons, if_neg Bool.false_ne_true, String.toList_append,
        List.map_cons, toList_joined, PlainTable.toList_text, List.flatMap_map]
      simp only [PlainTable.toList_text]
      rfl
  -- all other clauses are empty
  have hquery (body : Body) : (Parser.plainQuery body).text = body.text := by
    simp [Parser.plainQuery, Query.text, optional, exprText?, phraseText]
  rw [statement, Statement.text, hquery, Body.text, tree, Select.text, chars]
  simp only [String.toList_append, hitems, htables, phraseText]
  simp

/-! ## Lexemes -/

/-- The lexemes of an expression. -/
def PlainExpr.lexemes : PlainExpr g → List Lexeme
  | .column n ns => n.lexeme :: Parser.dotted ns
  | .string s => [.literal (.string s)]

/-- The lexemes of an item. -/
def PlainItem.lexemes (i : PlainItem g) : List Lexeme :=
  i.expr.lexemes ++ Parser.aliasLexemes i.asName

/-- The lexemes of a table. -/
def PlainTable.lexemes (t : PlainTable g) : List Lexeme :=
  t.name.lexeme :: (Parser.dotted t.more ++ Parser.aliasLexemes t.asName)

/-- The lexemes of the members of a list after the first. -/
def moreLexemes {α : Type} (lexemes : α → List Lexeme) (as : List α) : List Lexeme :=
  as.flatMap fun a => .symbol "," :: lexemes a

/-- The lexemes of the tables, with the word before them. -/
def sourceLexemes : List (PlainTable g) → List Lexeme
  | [] => []
  | t :: ts => bareWord "FROM" :: (t.lexemes ++ moreLexemes PlainTable.lexemes ts)

/-- The lexemes of a select after its first word. -/
def PlainSelect.lexemes (p : PlainSelect g) : List Lexeme :=
  p.item.lexemes ++ (moreLexemes PlainItem.lexemes p.items ++ sourceLexemes p.tables)

variable {rest : List Char}

theorem ends_dottedChars (h : Ends rest) (ns : List (Name g)) : Ends (dottedChars ns ++ rest) := by
  cases ns with
  | nil => exact h
  | cons n ns =>
    intro c hc
    exact .inr (.inr (Option.some.inj hc).symm)

theorem ends_aliasChars (h : Ends rest) (asName : Option (Name g)) :
    Ends (aliasChars asName ++ rest) := by
  cases asName with
  | none => exact h
  | some n =>
    intro c hc
    exact .inl (Option.some.inj hc).symm

/-- The parts of a name are cut off as words with dots between them. -/
theorem cuts_dottedChars (h : Ends rest) {ns : List (Name g)} (hns : ∀ n ∈ ns, n.Clean) :
    Cuts g (dottedChars ns ++ rest) (Parser.dotted ns) rest := by
  induction ns with
  | nil => exact .refl rest
  | cons n ns ih =>
    rw [List.forall_mem_cons] at hns
    have hdot := n.cuts_dot (dottedChars ns ++ rest)
    have hname := hns.1.cuts (ends_dottedChars h ns)
    have hall := (hdot.trans hname).trans (ih hns.2)
    simpa [dottedChars, Parser.dotted] using hall

/-- An alias is cut off as `AS` and its word. -/
theorem cuts_aliasChars (h : Ends rest) {asName : Option (Name g)} (hn : ∀ n ∈ asName, n.Clean) :
    Cuts g (aliasChars asName ++ rest) (Parser.aliasLexemes asName) rest := by
  cases asName with
  | none => exact .refl rest
  | some n =>
    have hall := (cuts_as (n.ident.text.toList ++ rest)).trans ((hn n rfl).cuts h)
    rwa [← List.append_assoc] at hall

theorem PlainExpr.Clean.cuts {e : PlainExpr g} (he : e.Clean) (h : Ends rest) :
    Cuts g (e.chars ++ rest) e.lexemes rest := by
  cases e with
  | string s => exact CleanString.cuts he h
  | column n ns =>
    obtain ⟨hn, hns⟩ := List.forall_mem_cons.1 he
    have hall := (hn.cuts (ends_dottedChars h ns)).trans (cuts_dottedChars h hns)
    rwa [← List.append_assoc] at hall

theorem PlainItem.Clean.cuts {i : PlainItem g} (hi : i.Clean) (h : Ends rest) :
    Cuts g (i.chars ++ rest) i.lexemes rest := by
  rw [chars, List.append_assoc]
  exact (hi.expr.cuts (ends_aliasChars h _)).trans (cuts_aliasChars h hi.asName)

/-- A clean table is cut off as its lexemes. -/
theorem PlainTable.Clean.cuts {t : PlainTable g} (ht : t.Clean) (h : Ends rest) :
    Cuts g (t.chars ++ rest) t.lexemes rest := by
  obtain ⟨hn, hns⟩ := List.forall_mem_cons.1 ht.name
  have halias := ends_aliasChars h t.asName
  rw [chars, List.append_assoc, List.append_assoc]
  have hname := hn.cuts (ends_dottedChars halias t.more)
  have hparts := cuts_dottedChars halias hns
  have hasName := cuts_aliasChars h ht.asName
  exact hname.trans (hparts.trans hasName)

theorem ends_moreChars (h : Ends rest) {α : Type} (chars : α → List Char) (as : List α) :
    Ends (moreChars chars as ++ rest) := by
  cases as with
  | nil => exact h
  | cons a as =>
    intro c hc
    exact .inr (.inl (Option.some.inj hc).symm)

/-- The other members of a list are cut off with their commas, if each member is cut off as its
lexemes. -/
theorem cuts_moreChars {α : Type} {chars : α → List Char} {lexemes : α → List Lexeme} (h : Ends rest)
    {as : List α} (has : ∀ a ∈ as, ∀ {rest}, Ends rest → Cuts g (chars a ++ rest) (lexemes a) rest) :
    Cuts g (moreChars chars as ++ rest) (moreLexemes lexemes as) rest := by
  induction as with
  | nil => exact .refl rest
  | cons a as ih =>
    obtain ⟨ha, has⟩ := List.forall_mem_cons.1 has
    have hall := ((cuts_comma _).trans (ha (ends_moreChars h chars as))).trans (ih has)
    simpa [moreChars, moreLexemes] using hall

/-- A list is cut off member by member. -/
theorem cuts_list {α : Type} {chars : α → List Char} {lexemes : α → List Lexeme} (h : Ends rest)
    {a : α} {as : List α}
    (has : ∀ b ∈ a :: as, ∀ {rest}, Ends rest → Cuts g (chars b ++ rest) (lexemes b) rest) :
    Cuts g (chars a ++ (moreChars chars as ++ rest)) (lexemes a ++ moreLexemes lexemes as) rest := by
  obtain ⟨ha, has⟩ := List.forall_mem_cons.1 has
  exact (ha (ends_moreChars h chars as)).trans (cuts_moreChars h has)

theorem ends_sourceChars (ts : List (PlainTable g)) : Ends (sourceChars ts) := by
  intro c hc
  cases ts with
  | nil => cases hc
  | cons t ts => exact .inl (Option.some.inj hc).symm

/-- A clean select list is cut into its lexemes, whatever the tables are. -/
theorem PlainSelect.cuts_items {p : PlainSelect g} (h : ∀ i ∈ p.item :: p.items, i.Clean) :
    Cuts g p.chars (p.item.lexemes ++ moreLexemes PlainItem.lexemes p.items)
      (sourceChars p.tables) :=
  cuts_list (ends_sourceChars p.tables) fun i hi _ hrest => (h i hi).cuts hrest

/-- The sources of a select are cut up to the end of the text. -/
theorem lexes_sourceChars {ts : List (PlainTable g)} (h : ∀ t ∈ ts, t.Clean) :
    Lexes g (sourceChars ts) (sourceLexemes ts) := by
  cases ts with
  | nil => exact lexes_nil
  | cons t ts =>
    have htables : Cuts g (t.chars ++ (moreChars PlainTable.chars ts ++ []))
        (t.lexemes ++ moreLexemes PlainTable.lexemes ts) [] :=
      cuts_list ends_nil fun t ht _ hrest => (h t ht).cuts hrest
    have hall := ((cuts_from _).trans htables).lexes lexes_nil
    rwa [List.append_nil, List.append_nil] at hall

/-- A clean select is cut into its lexemes. -/
theorem PlainSelect.Clean.lex_text {p : PlainSelect g} (h : p.Clean) :
    lex g p.statement.text = some (bareWord "SELECT" :: p.lexemes) := by
  have hitems := (PlainSelect.cuts_items h.items).lexes (lexes_sourceChars h.tables)
  have hall := (cuts_select p.chars).lexes hitems
  refine Lexes.lex_eq ?_
  rwa [toList_text, lexemes, ← List.append_assoc]

end DatasetSql.Statement
