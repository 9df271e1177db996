import DatasetSql.Proofs.Lexing
import DatasetSql.Statement.Parser.Statement

/-!
# Reading columns, strings and tables

What the readers make of the lexemes of a name with qualifiers, of a string, of an alias and of a
table, where the lexeme after them belongs to none of them.
-/

namespace DatasetSql.Statement.Parser

variable {g : Grammar} {rest : List Lexeme}

/-! ## Steps -/

section Steps

variable {α β : Type} {p : Parser α} {ls t : List Lexeme} {a : α}

/-- A reader goes on where the one before it stopped. -/
theorem bind_of_ok {f : α → Parser β} (h : p ls = .ok (a, t)) : (p >>= f) ls = f a t := by
  simp only [bind, StateT.bind, h, Except.bind]

theorem map_of_ok {f : α → β} (h : p ls = .ok (a, t)) : (f <$> p) ls = .ok (f a, t) := by
  simp only [Functor.map, StateT.map, h, bind, Except.bind, pure, Except.pure]

/-- A reader that does not fit is tried without moving. -/
theorem maybe_of_invalid (h : p ls = .error .invalid) : maybe p ls = .ok (none, ls) := by
  simp only [maybe, h]

end Steps

section Keywords

variable {k : String} {ks : List String} {ls : List Lexeme}

/-- Keywords are not there if the first of them is not. -/
theorem keywords_of_head (h : ls.head?.any (·.isKeyword k) = false) :
    keywords (k :: ks) ls = .ok (false, ls) := by
  have hpeek : peekKeywords (k :: ks) ls = .ok (false, ls) := by
    refine congrArg (fun b => Except.ok (b, ls)) ?_
    cases ls with
    | nil => rfl
    | cons l ls =>
      have hl : l.isKeyword k = false := h
      simp [hl]
  rw [keywords, bind_of_ok hpeek]
  rfl

/-- A flag that is not there moves nothing. -/
theorem flag_of_head (h : ls.head?.any (·.isKeyword k) = false) :
    flag (k :: ks) ls = .ok ([], ls) := by
  rw [flag, bind_of_ok (keywords_of_head h)]
  rfl

theorem clause_of_head (h : ls.head?.any (·.isKeyword k) = false) (p : Parser Phrase) :
    clause (k :: ks) p ls = .ok ([], ls) := by
  have hopened : opened (k :: ks) p ls = .ok ([], ls) := by
    rw [opened, bind_of_ok (keywords_of_head h)]
    rfl
  exact map_of_ok hopened

end Keywords

/-- The lexemes that no name, string or table goes on with. -/
inductive Stops : List Lexeme → Prop where
  | nil : Stops []
  | comma (ls : List Lexeme) : Stops (.symbol "," :: ls)
  | as (ls : List Lexeme) : Stops (bareWord "AS" :: ls)
  | source (ls : List Lexeme) : Stops (bareWord "FROM" :: ls)

/-! ## Names with qualifiers -/

/-- The lexemes of the parts of a name after the first. -/
def dotted : List (Name g) → List Lexeme
  | [] => []
  | n :: ns => .symbol "." :: n.lexeme :: dotted ns

theorem length_dotted (ns : List (Name g)) : (dotted ns).length = 2 * ns.length := by
  induction ns with
  | nil => rfl
  | cons n ns ih =>
    rw [dotted, List.length_cons, List.length_cons, ih, List.length_cons]
    omega

/-- The lexemes are more than the parts, so they bound the number of steps. -/
theorem length_lt_dotted (ns : List (Name g)) (rest : List Lexeme) :
    ns.length < (dotted ns ++ rest).length + 1 := by
  rw [List.length_append, length_dotted]
  omega

/-- A dot and a name are taken as the next part. -/
theorem nameTail_dot (doubleDots : Bool) (m : Nat) (parts : List Ident) (n : Name g)
    (ls : List Lexeme) : nameTail doubleDots (m + 1) parts (.symbol "." :: n.lexeme :: ls) =
      nameTail doubleDots m (parts ++ [n.ident]) ls := by
  rw [nameTail]
  cases doubleDots <;> cases parts.length == 1 <;> rfl

/-- All parts of a name are taken, if the fuel is enough for them and something stops them. -/
theorem nameTail_dotted (doubleDots : Bool) {m : Nat} {ns : List (Name g)} (hm : ns.length < m)
    (parts : List Ident) (h : Stops rest) :
    nameTail doubleDots m parts (dotted ns ++ rest) = .ok (parts ++ ns.map Name.ident, rest) := by
  induction m generalizing ns parts with
  | zero => exact absurd hm (Nat.not_lt_zero _)
  | succ m ih =>
    cases ns with
    | nil =>
      rw [List.map_nil, List.append_nil]
      cases h <;> rfl
    | cons n ns =>
      rw [dotted, List.cons_append, List.cons_append, nameTail_dot, ih (Nat.lt_of_succ_lt_succ hm)]
      simp

/-- A qualified name is read as its parts. -/
theorem dottedName_dotted {m : Nat} {ns : List (Name g)} (hm : ns.length < m) (parts : List Ident)
    (h : Stops rest) :
    dottedName g m parts (dotted ns ++ rest) = .ok ((parts ++ ns.map Name.ident, false), rest) := by
  induction m generalizing ns parts with
  | zero => exact absurd hm (Nat.not_lt_zero _)
  | succ m ih =>
    cases ns with
    | nil =>
      rw [List.map_nil, List.append_nil]
      cases h <;> rfl
    | cons n ns =>
      have hstep : dottedName g (m + 1) parts (dotted (n :: ns) ++ rest) =
          dottedName g m (parts ++ [n.ident]) (dotted ns ++ rest) := rfl
      rw [hstep, ih (Nat.lt_of_succ_lt_succ hm)]
      simp

theorem dottedWildcard_dotted {m : Nat} {ns : List (Name g)} (hm : ns.length < m)
    (parts : List Ident) (h : Stops rest) :
    dottedWildcard m parts (dotted ns ++ rest) = .ok (none, rest) := by
  induction m generalizing ns parts with
  | zero => exact absurd hm (Nat.not_lt_zero _)
  | succ m ih =>
    cases ns with
    | nil => cases h <;> rfl
    | cons n ns =>
      have hstep : dottedWildcard (m + 1) parts (dotted (n :: ns) ++ rest) =
          dottedWildcard m (parts ++ [n.ident]) (dotted ns ++ rest) := rfl
      rw [hstep, ih (Nat.lt_of_succ_lt_succ hm)]

theorem objectName_dotted (n : Name g) (ns : List (Name g)) (h : Stops rest) :
    objectName g (n.lexeme :: (dotted ns ++ rest)) =
      .ok (nameParts g ((n :: ns).map Name.ident), rest) := by
  have hm : ns.length < (n.lexeme :: (dotted ns ++ rest)).length + 1 :=
    Nat.lt_succ_of_lt (length_lt_dotted ns rest)
  unfold objectName
  rw [bind_of_ok rfl, bind_of_ok rfl, bind_of_ok (nameTail_dotted _ hm _ h)]
  rfl

/-! ## Columns and strings -/

/-- A name is no type of the language, so no literal of a type. -/
theorem customType_dotted (n : Name g) (ns : List (Name g)) (h : Stops rest) :
    customType g (n.lexeme :: (dotted ns ++ rest)) =
      .ok (⟨.custom, nameText (nameParts g ((n :: ns).map Name.ident))⟩, rest) := by
  unfold customType
  rw [bind_of_ok (objectName_dotted n ns h)]
  cases h <;> simp <;> rfl

theorem arraySuffixes_stops (m : Nat) (type : DataType) (h : Stops rest) :
    arraySuffixes g m type rest = .ok (type, rest) := by
  cases m with
  | zero => rfl
  | succ m => cases h <;> rfl

theorem dataTypeFrom_name (m : Nat) (n : Name g) (ls : List Lexeme) :
    dataTypeFrom g (m + 1) (n.lexeme :: ls) =
      (do
        let type ← customType g
        let type ← arraySuffixes g (← get).length type
        return (type, false)) (n.lexeme :: ls) := by
  cases g <;> rfl

theorem dataType_dotted (n : Name g) (ns : List (Name g)) (h : Stops rest) :
    dataType g (n.lexeme :: (dotted ns ++ rest)) =
      .ok (⟨.custom, nameText (nameParts g ((n :: ns).map Name.ident))⟩, rest) := by
  unfold dataType openType
  rw [bind_assoc, bind_of_ok rfl, bind_of_ok (a := (_, false)) (t := rest)]
  · rfl
  · rw [dataTypeFrom_name, bind_of_ok (customType_dotted n ns h), bind_of_ok rfl,
      bind_of_ok (arraySuffixes_stops _ _ h)]
    rfl

/-- A column is no literal with its type in front, since no string follows. -/
theorem typedLiteral_dotted (n : Name g) (ns : List (Name g)) (h : Stops rest) :
    typedLiteral g (n.lexeme :: (dotted ns ++ rest)) = .error .invalid := by
  unfold typedLiteral
  rw [bind_of_ok (dataType_dotted n ns h)]
  rfl

/-- A delimited name opens no form of its own. -/
theorem specialForm_quoted (r : Nested) (intervalOf : Parser Expr) (i : Ident) (ls : List Lexeme) :
    specialForm g r intervalOf i "" ls = .ok (none, ls) := by
  cases g <;> rfl

/-- A qualified name is read as a column. -/
theorem nameExpr_dotted (r : Nested) (intervalOf : Parser Expr) (n : Name g) (ns : List (Name g))
    (h : Stops rest) : nameExpr g r intervalOf n.ident (dotted ns ++ rest) =
      .ok (columnOf ((n :: ns).map Name.ident), rest) := by
  cases ns with
  | nil => cases h <;> rfl
  | cons m ns =>
    have hparts := dottedName_dotted (length_lt_dotted (m :: ns) rest) [n.ident] h
    unfold nameExpr
    simp only [dotted, List.cons_append] at hparts ⊢
    rw [bind_of_ok rfl]
    simp only [List.head?_cons]
    rw [if_pos (by rfl), bind_of_ok rfl, bind_of_ok hparts]
    cases h <;> cases g <;> rfl

theorem wordOperand_dotted (r : Nested) (intervalOf : Parser Expr) (n : Name g) (ns : List (Name g))
    (h : Stops rest) : wordOperand g r intervalOf n.ident "" (dotted ns ++ rest) =
      .ok ((columnOf ((n :: ns).map Name.ident), false), rest) := by
  simp only [wordOperand, specialForm_quoted, nameExpr_dotted r intervalOf n ns h]
  rfl

/-- Where something stops an operand, no method follows it. -/
theorem withMethods_stops (r : Nested) (intervalOf : Parser Expr) (e : Expr) (h : Stops rest) :
    withMethods g r intervalOf e rest = .ok (e, rest) := by
  cases h <;> cases g <;> rfl

/-- A column is read as an operand. -/
theorem operandFrom_dotted (r : Nested) (m : Nat) (n : Name g) (ns : List (Name g))
    (h : Stops rest) : operandFrom g r (m + 1) (n.lexeme :: (dotted ns ++ rest)) =
      .ok (columnOf ((n :: ns).map Name.ident), rest) := by
  unfold operandFrom
  rw [bind_of_ok (maybe_of_invalid (typedLiteral_dotted n ns h))]
  dsimp only
  rw [bind_of_ok rfl, Name.lexeme]
  dsimp only
  rw [bind_of_ok (wordOperand_dotted r _ n ns h)]
  dsimp only
  rw [if_neg Bool.false_ne_true, bind_of_ok (withMethods_stops _ _ _ h)]
  cases h <;> rfl

theorem operandFrom_string (r : Nested) (m : Nat) (s : String) (h : Stops rest) :
    operandFrom g r (m + 1) (.literal (.string s) :: rest) = .ok (.value (.string s), rest) := by
  cases h <;> cases g <;> rfl

/-- Where something stops an operand, no operator follows it. -/
theorem operatorsFrom_stops (r : Nested) (strength m : Nat) (e : Expr) (h : Stops rest) :
    operatorsFrom g r strength m e rest = .ok (e, rest) := by
  cases m with
  | zero => rfl
  | succ m =>
    have hnext : nextStrength g rest = 0 := by cases h <;> cases g <;> rfl
    unfold operatorsFrom
    rw [bind_of_ok rfl]
    simp only [hnext, Nat.zero_le, if_true]
    rfl

/-- An operand that nothing follows is an expression. -/
theorem exprLevel_of_operandFrom (r : Nested) (strength : Nat) {ls : List Lexeme} {e : Expr}
    (h : Stops rest) (hoperand : ∀ m, operandFrom g r (m + 1) ls = .ok (e, rest)) :
    exprLevel g r strength ls = .ok (e, rest) := by
  unfold exprLevel operand
  rw [bind_assoc, bind_of_ok rfl, bind_of_ok (hoperand _), bind_of_ok rfl,
    operatorsFrom_stops _ _ _ _ h]

/-! ## Items of a select list -/

/-- The lexemes of an alias. -/
def aliasLexemes : Option (Name g) → List Lexeme
  | some n => [bareWord "AS", n.lexeme]
  | none => []

/-- What ends an item of a select list. -/
inductive EndsItem : List Lexeme → Prop where
  | nil : EndsItem []
  | comma (ls : List Lexeme) : EndsItem (.symbol "," :: ls)
  | source (ls : List Lexeme) : EndsItem (bareWord "FROM" :: ls)

/-- Whatever ends an item stops its expression. -/
theorem EndsItem.stops (h : EndsItem rest) : Stops rest := by
  cases h with
  | nil => exact .nil
  | comma ls => exact .comma ls
  | source ls => exact .source ls

theorem EndsItem.stops_alias (h : EndsItem rest) (asName : Option (Name g)) :
    Stops (aliasLexemes asName ++ rest) := by
  cases asName with
  | none => exact h.stops
  | some n => exact .as _

theorem optionalAlias_item (h : EndsItem rest) (asName : Option (Name g)) :
    optionalAlias columnAliasReserved (aliasLexemes asName ++ rest) =
      .ok (asName.map Name.ident, rest) := by
  cases asName with
  | none => cases h <;> rfl
  | some n => rfl

/-- An expression that is no wildcard is read as such. -/
theorem exprOrWildcard_dotted {r : Nested} {n : Name g} {ns : List (Name g)} (h : Stops rest)
    {e : Expr} (he : anyExpr r (n.lexeme :: (dotted ns ++ rest)) = .ok (e, rest)) :
    exprOrWildcard r (n.lexeme :: (dotted ns ++ rest)) = .ok (.expr e, rest) := by
  cases ns with
  | nil =>
    have hread : exprOrWildcard r (n.lexeme :: rest) = (Item.expr <$> anyExpr r) (n.lexeme :: rest) := by
      cases h <;> rfl
    exact hread.trans (map_of_ok he)
  | cons m ns =>
    -- a dot is first tried as that of a wildcard, from where the reader returns
    have hread : exprOrWildcard r (n.lexeme :: (dotted (m :: ns) ++ rest)) =
        qualifiedWildcard r n.ident (n.lexeme :: (dotted (m :: ns) ++ rest)) := rfl
    rw [hread, qualifiedWildcard, bind_of_ok rfl, bind_of_ok rfl, List.length_cons, List.tail_cons,
      bind_of_ok (dottedWildcard_dotted (length_lt_dotted (m :: ns) rest) _ h)]
    dsimp only
    rw [bind_of_ok rfl]
    exact map_of_ok he

/-- A column with its alias is read as an item. -/
theorem item_column {r r' : Nested} (hr : anyExpr r = exprLevel g r' 0) (n : Name g)
    (ns : List (Name g)) (asName : Option (Name g)) (h : EndsItem rest) :
    item g r (n.lexeme :: (dotted ns ++ (aliasLexemes asName ++ rest))) =
      .ok ((columnOf ((n :: ns).map Name.ident), asName.map Name.ident), rest) := by
  -- whether or not there is an alias, the column ends before it
  have hstops := h.stops_alias asName
  have he : anyExpr r (n.lexeme :: (dotted ns ++ (aliasLexemes asName ++ rest))) =
      .ok (columnOf ((n :: ns).map Name.ident), aliasLexemes asName ++ rest) := by
    rw [hr]
    exact exprLevel_of_operandFrom r' 0 hstops fun m => operandFrom_dotted r' m n ns hstops
  unfold item
  rw [bind_of_ok (exprOrWildcard_dotted hstops he)]
  cases ns with
  | nil => exact bind_of_ok (optionalAlias_item h asName)
  | cons m ns => exact bind_of_ok (optionalAlias_item h asName)

theorem item_string {r r' : Nested} (hr : anyExpr r = exprLevel g r' 0) (s : String)
    (asName : Option (Name g)) (h : EndsItem rest) :
    item g r (.literal (.string s) :: (aliasLexemes asName ++ rest)) =
      .ok ((.value (.string s), asName.map Name.ident), rest) := by
  have hstops := h.stops_alias asName
  have he : anyExpr r (.literal (.string s) :: (aliasLexemes asName ++ rest)) =
      .ok (.value (.string s), aliasLexemes asName ++ rest) := by
    rw [hr]
    exact exprLevel_of_operandFrom r' 0 hstops fun m => operandFrom_string r' m s hstops
  have hread : exprOrWildcard r (.literal (.string s) :: (aliasLexemes asName ++ rest)) =
      (Item.expr <$> anyExpr r) (.literal (.string s) :: (aliasLexemes asName ++ rest)) := by
    cases asName with
    | none => cases h <;> rfl
    | some n => rfl
  unfold item
  rw [bind_of_ok (hread.trans (map_of_ok he))]
  exact bind_of_ok (optionalAlias_item h asName)

/-! ## Tables -/

/-- What ends a table of a `FROM` clause. -/
inductive EndsTable : List Lexeme → Prop where
  | nil : EndsTable []
  | comma (ls : List Lexeme) : EndsTable (.symbol "," :: ls)

theorem EndsTable.stops_alias (h : EndsTable rest) (asName : Option (Name g)) :
    Stops (aliasLexemes asName ++ rest) := by
  cases asName with
  | none =>
    cases h with
    | nil => exact .nil
    | comma ls => exact .comma ls
  | some n => exact .as _

/-- Where names may hold hyphens, only names of one part are looked at. -/
theorem tableName_dotted (n : Name g) {ns : List (Name g)} (hns : g.hyphenatedNames = true → ns = [])
    (h : Stops rest) : tableName g (n.lexeme :: (dotted ns ++ rest)) =
      .ok (nameParts g ((n :: ns).map Name.ident), rest) := by
  cases hg : g.hyphenatedNames with
  | false =>
    rw [tableName, hg]
    exact objectName_dotted n ns h
  | true =>
    obtain rfl := hns hg
    rw [tableName, hg]
    cases h <;> rfl

/-- Nothing is said about the version of a table. -/
theorem tableVersion_stops (r : Nested) (h : Stops rest) : tableVersion g r rest = .ok ([], rest) := by
  unfold tableVersion
  split_ifs
  · exact clause_of_head (by cases h <;> rfl) _
  · rfl

theorem tableAlias_endsTable (h : EndsTable rest) (asName : Option (Name g)) :
    tableAlias g (aliasLexemes asName ++ rest) =
      .ok (asName.map fun n => ⟨n.ident, []⟩, rest) := by
  cases asName <;> cases h <;> rfl

/-- Reads what follows a table by name: its alias, and what is made of it. -/
def aliasedTable (g : Grammar) (r : Nested) (name : ObjectName) (isCall : Bool)
    (detail version : Phrase) : Parser Relation := do
  let asName ← tableAlias g
  let hints ← tableHints g r
  let relation ← pivots g r (.table name isCall detail asName (hints ++ version))
  if ← onlyIf (g == .generic || g == .snowflake) (keyword "MATCH_RECOGNIZE") then
    let m ← rowMatching g r
    formed g (relationPart relation ++ m)
  else return relation

/-- A name that is not called is that of a table, whose alias follows. -/
theorem namedTable_eq_aliasedTable {r : Nested} {ls t : List Lexeme} {name : ObjectName}
    (hname : tableName g ls = .ok (name, t)) (hstops : Stops t) :
    namedTable g r ls = aliasedTable g r name false [] [] t := by
  -- no path, partition, version, call or ordinality follows a name
  have hpath : peekSymbol "[" t = .ok (false, t) := by cases hstops <;> rfl
  have hpartitions : tablePartitions g t = .ok ([], t) := by cases hstops <;> cases g <;> rfl
  have hcall : symbol "(" t = .ok (false, t) := by cases hstops <;> rfl
  have hordinality : flag ["WITH", "ORDINALITY"] t = .ok ([], t) :=
    flag_of_head (by cases hstops <;> rfl)
  unfold namedTable
  rw [bind_of_ok hname, bind_of_ok hpath, Bool.and_false, if_neg Bool.false_ne_true, bind_of_ok rfl]
  dsimp only
  rw [bind_of_ok hpartitions, bind_of_ok (tableVersion_stops r hstops), bind_of_ok hcall,
    if_neg Bool.false_ne_true, bind_of_ok rfl, bind_of_ok hordinality]
  rfl

/-- Behind the alias of a table nothing more is read. -/
theorem aliasedTable_of_tableAlias {r : Nested} {name : ObjectName} {t : List Lexeme}
    {asName : Option TableAlias} (halias : tableAlias g t = .ok (asName, rest))
    (h : EndsTable rest) :
    aliasedTable g r name false [] [] t = .ok (.table name false [] asName [], rest) := by
  unfold aliasedTable
  rw [bind_of_ok halias]
  cases h <;> cases g <;> rfl

/-- Whatever ends a table starts no join. -/
theorem many_join_endsTable (r : Nested) (relation : Parser Relation) (h : EndsTable rest) :
    many (join g r relation) rest = .ok ([], rest) := by
  cases h <;> rfl

/-- A table by its name, with its alias, is read as a source. -/
theorem source_dotted (r : Nested) (n : Name g) {ns : List (Name g)} (asName : Option (Name g))
    (hns : g.hyphenatedNames = true → ns = [])
    (h : EndsTable rest) : source g r (n.lexeme :: (dotted ns ++ (aliasLexemes asName ++ rest))) =
      .ok (.mk (.table (nameParts g ((n :: ns).map Name.ident)) false []
        (asName.map fun n => ⟨n.ident, []⟩) []) [], rest) := by
  have hname := tableName_dotted n hns (h.stops_alias asName)
  unfold source
  rw [bind_of_ok rfl, sourceFrom]
  have hrelation (nested : Parser Source) : relationWith g r nested
      (n.lexeme :: (dotted ns ++ (aliasLexemes asName ++ rest))) =
        namedTable g r (n.lexeme :: (dotted ns ++ (aliasLexemes asName ++ rest))) := by
    cases g <;> rfl
  have htable := (namedTable_eq_aliasedTable (r := r) hname (h.stops_alias asName)).trans
    (aliasedTable_of_tableAlias (tableAlias_endsTable h asName) h)
  rw [bind_of_ok ((hrelation _).trans htable), bind_of_ok (many_join_endsTable r _ h)]
  rfl

end DatasetSql.Statement.Parser
