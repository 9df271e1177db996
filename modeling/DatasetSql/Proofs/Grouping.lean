import DatasetSql.Proofs.Precedence
import DatasetSql.Transform.Pipeline

/-!
# Grouping of transformed columns

Nothing adds parentheses to an expression when it is written, so every rule has to wrap the operands
that need it. It does: if the tokens of a column are read back by precedence as the operators they
stand for, so are the tokens of the column after any rules.
-/

namespace DatasetSql

open Emit Emit.Reader

/-! ## Tokens and trees of expressions -/

/-- Whether a token only separates others. -/
def Emit.Token.isBlank : Token → Bool
  | .space | .newline | .indent _ => true
  | _ => false

/-- The tokens that are not blank. -/
def Emit.significant (ts : List Token) : List Token := ts.filter fun t => !t.isBlank

namespace Emit

mutual

/-- The operators of an expression, without its parentheses. Where a dialect has no operator for
concatenation, it is a call. -/
def Expr.tree (d : Dialect) : Expr → OperatorTree
  | .column table name => .column table name
  | .literal value => .literal value
  | .binary left op right =>
    if op = .concat ∧ d.hasConcatOperator = false then
      .call "CONCAT" [left.tree d, right.tree d]
    else .binary (left.tree d) op (right.tree d)
  | .function name args => .call name (trees d args)
  | .cast operand type => .cast (operand.tree d) type
  | .case branches otherwise => .case (branchTrees d branches) (otherwiseTree d otherwise)
  | .inSubquery operand query negated =>
    .inSubquery (operand.tree d) (significant (query.tokens d)) negated
  | .between operand low high negated =>
    .between (operand.tree d) (low.tree d) (high.tree d) negated
  | .star table => .star table
  | .paren inner => inner.tree d
  | .overAll function => .overAll (function.tree d)
  | .raw sql => .raw sql

/-- The operators of each expression. -/
def trees (d : Dialect) : List Expr → List OperatorTree
  | [] => []
  | e :: es => e.tree d :: trees d es

/-- The operators of the branches of a `CASE`. -/
def branchTrees (d : Dialect) : List (Expr × Expr) → List (OperatorTree × OperatorTree)
  | [] => []
  | (test, value) :: bs => (test.tree d, value.tree d) :: branchTrees d bs

/-- The operators of the last branch of a `CASE`. -/
def otherwiseTree (d : Dialect) : Option Expr → Option OperatorTree
  | none => none
  | some e => some (e.tree d)

end

/-- The tokens of an expression that are not blank. -/
def Expr.words (d : Dialect) (e : Expr) : List Token := significant (e.tokens d)

/-- The tokens of an expression are read by precedence as the operators of the expression and as
nothing else. -/
def Expr.ReadsBack (d : Dialect) (e : Expr) : Prop := ∀ t, Reads 0 (e.words d) t ↔ t = e.tree d

/-! ## Words -/

theorem significant_append (ts ts' : List Token) :
    significant (ts ++ ts') = significant ts ++ significant ts' := List.filter_append ..

theorem significant_separated (tss : List (List Token)) :
    significant (separated commaSpace tss) = separated [.comma] (tss.map significant) := by
  induction tss with
  | nil => rfl
  | cons ts tss ih =>
    cases tss with
    | nil => rfl
    | cons ts' tss =>
      show significant (ts ++ commaSpace ++ separated commaSpace (ts' :: tss)) = _
      rw [significant_append, significant_append, ih]
      rfl

section Words

variable (d : Dialect)

theorem exprTokens_eq_map (es : List Expr) : exprTokens d es = es.map (Expr.tokens d) := by
  induction es with
  | nil => rfl
  | cons e es ih => rw [exprTokens, ih, List.map_cons]

/-- A binary operator stands between the words of its operands, unless a function is called for
it. -/
theorem words_binary {op : BinaryOp} (hop : ¬ (op = .concat ∧ d.hasConcatOperator = false))
    (left right : Expr) : (Expr.binary left op right).words d =
      left.words d ++ op.token :: right.words d := by
  have htoken : significant [.space, op.token, .space] = [op.token] := by
    cases op <;> rfl
  rw [Expr.words, Expr.tokens, if_neg hop, significant_append, significant_append, htoken,
    List.append_assoc]
  rfl

theorem words_function (name : String) (args : List Expr) :
    (Expr.function name args).words d = .functionName name :: .lparen ::
      (separated [.comma] (args.map (Expr.words d)) ++ [Token.rparen]) := by
  rw [Expr.words, Expr.tokens, significant_append, significant_append, significant_separated,
    exprTokens_eq_map, List.map_map]
  rfl

theorem words_cast (operand : Expr) (type : String) : (Expr.cast operand type).words d =
    .cast :: .lparen :: (operand.words d ++ [Token.as, .raw type, .rparen]) := by
  rw [Expr.words, Expr.tokens, significant_append, significant_append]
  rfl

theorem words_paren (inner : Expr) :
    (Expr.paren inner).words d = .lparen :: (inner.words d ++ [Token.rparen]) := by
  rw [Expr.words, Expr.tokens, significant_append, significant_append]
  rfl

theorem words_overAll (function : Expr) :
    (Expr.overAll function).words d = function.words d ++ [Token.overKw, .lparen, .rparen] := by
  rw [Expr.words, Expr.tokens, significant_append]
  rfl

/-- The branches of a `CASE` without blanks are those that the grammar reads. -/
theorem words_branches (otherwise : Option Expr) (branches : List (Expr × Expr)) :
    significant (branchTokens d branches) ++ significant (otherwiseTokens d otherwise ++
        [.space, .endKw]) =
      caseTokens (otherwise.map (Expr.words d))
        (branches.map fun b => (b.1.words d, b.2.words d)) := by
  induction branches with
  | nil =>
    cases otherwise with
    | none => rfl
    | some e =>
      rw [otherwiseTokens, significant_append, significant_append]
      rfl
  | cons b branches ih =>
    obtain ⟨test, value⟩ := b
    rw [branchTokens]
    simp only [significant_append, List.append_assoc] at ih ⊢
    rw [ih]
    rfl

/-- A `CASE` is read as its branches and its last one. -/
theorem words_case (branches : List (Expr × Expr)) (otherwise : Option Expr) :
    (Expr.case branches otherwise).words d = .case :: caseTokens (otherwise.map (Expr.words d))
      (branches.map fun b => (b.1.words d, b.2.words d)) := by
  rw [← words_branches, Expr.words, Expr.tokens, List.append_assoc, List.append_assoc,
    significant_append, significant_append]
  rfl

end Words

/-! ## What is read back -/

namespace Expr

/-- The tokens of an expression are read as a primary. -/
def IsPrimary (d : Dialect) (e : Expr) : Prop := ReadsPrimary (e.words d) (e.tree d)

/-- The tokens of an expression are read as an operand. -/
def IsOperand (d : Dialect) (e : Expr) : Prop := ReadsOperand (e.words d) (e.tree d)

/-- The tokens of an expression are read as an expression of a level. -/
def IsReadAt (d : Dialect) (level : Nat) (e : Expr) : Prop := Reads level (e.words d) (e.tree d)

variable {d : Dialect}

/-- Tokens are read in one way only, so it is enough to find one. -/
theorem readsBack_iff {e : Expr} : e.ReadsBack d ↔ e.IsReadAt d 0 := by
  constructor
  · intro h
    exact (h _).2 rfl
  · intro h t
    refine ⟨fun ht => ht.unique h, ?_⟩
    rintro rfl
    exact h

theorem IsPrimary.isOperand {e : Expr} (h : e.IsPrimary d) : e.IsOperand d := h.operand

/-- An operand is read at every level. -/
theorem IsOperand.isReadAt {e : Expr} (h : e.IsOperand d) (level : Nat) : e.IsReadAt d level :=
  h.reads

theorem IsPrimary.isReadAt {e : Expr} (h : e.IsPrimary d) (level : Nat) : e.IsReadAt d level :=
  h.operand.reads

theorem isPrimary_column (table : Option String) (name : String) :
    (Expr.column table name).IsPrimary d := by
  cases table <;> exact ⟨0, rfl⟩

theorem isPrimary_literal (l : Literal) : (Expr.literal l).IsPrimary d := by
  cases l <;> exact ⟨0, rfl⟩

theorem isPrimary_raw (sql : String) : (Expr.raw sql).IsPrimary d := ⟨0, rfl⟩

/-- Parentheses make a primary of every expression. -/
theorem IsReadAt.paren {e : Expr} (h : e.IsReadAt d 0) : (Expr.paren e).IsPrimary d := by
  unfold IsPrimary
  rw [words_paren]
  exact ReadsPrimary.paren h

theorem IsReadAt.cast {e : Expr} (h : e.IsReadAt d 0) (type : String) :
    (Expr.cast e type).IsPrimary d := by
  unfold IsPrimary
  rw [words_cast]
  exact ReadsPrimary.cast h

/-- A call is a primary, whatever its arguments are. -/
theorem isPrimary_function {args : List Expr} (h : ∀ a ∈ args, a.IsReadAt d 0) (name : String) :
    (Expr.function name args).IsPrimary d := by
  have hargs : List.Forall₂ (Reads 0) (args.map (words d)) (trees d args) := by
    induction args with
    | nil => exact .nil
    | cons a args ih =>
      obtain ⟨ha, hrest⟩ := List.forall_mem_cons.1 h
      exact .cons ha (ih hrest)
  unfold IsPrimary
  rw [words_function]
  exact ReadsPrimary.call hargs

/-- A `CASE` is a primary, whatever stands in its branches. -/
theorem isPrimary_case {branches : List (Expr × Expr)} {otherwise : Option Expr}
    (h : ∀ b ∈ branches, b.1.IsReadAt d 0 ∧ b.2.IsReadAt d 0)
    (hlast : ∀ e, otherwise = some e → e.IsReadAt d 0) :
    (Expr.case branches otherwise).IsPrimary d := by
  have hbranches : List.Forall₂ (fun b t => Reads 0 b.1 t.1 ∧ Reads 0 b.2 t.2)
      (branches.map fun b => (b.1.words d, b.2.words d)) (branchTrees d branches) := by
    induction branches with
    | nil => exact .nil
    | cons b branches ih =>
      obtain ⟨hb, hrest⟩ := List.forall_mem_cons.1 h
      exact .cons hb (ih hrest)
  have hotherwise : Option.Rel (Reads 0) (otherwise.map (words d)) (otherwiseTree d otherwise) := by
    cases otherwise with
    | none => exact .none
    | some e => exact .some (hlast e rfl)
  unfold IsPrimary
  rw [words_case]
  exact ReadsPrimary.case hotherwise hbranches

/-- A primary over all rows is an operand. -/
theorem IsPrimary.overAll {f : Expr} (h : f.IsPrimary d) : (Expr.overAll f).IsOperand d := by
  unfold IsOperand
  rw [words_overAll]
  exact ReadsPrimary.over h

theorem operandEnd_cons {t : Token} (hdot : t ≠ .dot) (hover : t ≠ .overKw) {rest : List Token} :
    OperandEnd (t :: rest) :=
  ⟨fun h => hdot (Option.some.inj h), fun h => hover (Option.some.inj h)⟩

/-- An operand ends before an operator. -/
theorem operandEnd_token (op : BinaryOp) (ts : List Token) : OperandEnd (op.token :: ts) := by
  cases op <;> exact operandEnd_cons (by decide) (by decide)

/-- An operator between two operands is read at every level that it binds tightly enough for. -/
theorem IsOperand.binary {left right : Expr} (hleft : left.IsOperand d) (hright : right.IsOperand d)
    {op : BinaryOp} (hop : ¬ (op = .concat ∧ d.hasConcatOperator = false)) {level : Nat}
    (hlevel : level ≤ op.precedence) : (Expr.binary left op right).IsReadAt d level := by
  have hcontinues : Continues level (left.tree d) (op.token :: (right.words d ++ []))
      (.binary (left.tree d) op (right.tree d)) :=
    .operator hlevel hright.reads (closed_nil _) .nil
  rw [List.append_nil] at hcontinues
  unfold IsReadAt
  rw [words_binary d hop, tree, if_neg hop]
  exact hleft.continued (operandEnd_token op _) hcontinues

/-- A concatenation of two operands, as an operator or as a call. -/
theorem IsOperand.concat {left right : Expr} (hleft : left.IsOperand d)
    (hright : right.IsOperand d) : (Expr.binary left .concat right).IsReadAt d 0 := by
  by_cases hconcat : d.hasConcatOperator = false
  · -- the tokens and the tree are those of a call
    have hcall : (Expr.function "CONCAT" [left, right]).IsPrimary d := by
      refine isPrimary_function ?_ "CONCAT"
      simp only [List.forall_mem_cons]
      exact ⟨hleft.isReadAt 0, hright.isReadAt 0, nofun⟩
    have htree : (Expr.binary left .concat right).tree d =
        .call "CONCAT" [left.tree d, right.tree d] := if_pos ⟨rfl, hconcat⟩
    have hwords : (Expr.binary left .concat right).words d =
        (Expr.function "CONCAT" [left, right]).words d := by
      have htokens : (Expr.binary left .concat right).tokens d =
          (Expr.function "CONCAT" [left, right]).tokens d := by
        rw [tokens, if_pos ⟨rfl, hconcat⟩, tokens]
        simp [separated, exprTokens]
      rw [words, words, htokens]
    unfold IsReadAt
    rw [hwords, htree]
    exact hcall.isReadAt 0
  · exact hleft.binary hright (fun h => hconcat h.2) (Nat.zero_le _)

/-- Two comparisons of operands that must both hold. -/
theorem isReadAt_and {a b a' b' : Expr} (ha : a.IsOperand d) (hb : b.IsOperand d)
    (ha' : a'.IsOperand d) (hb' : b'.IsOperand d) {op op' : BinaryOp} (hop : op.precedence = 2)
    (hop' : op'.precedence = 2) :
    (Expr.binary (.binary a op b) .and (.binary a' op' b')).IsReadAt d 0 := by
  have hconcat : ∀ {o : BinaryOp}, o.precedence ≠ 3 →
      ¬ (o = .concat ∧ d.hasConcatOperator = false) := by
    rintro o ho ⟨rfl, -⟩
    exact ho rfl
  have hright : (Expr.binary a' op' b').IsReadAt d (BinaryOp.and.precedence + 1) :=
    ha'.binary hb' (hconcat (by omega)) (by rw [hop']; decide)
  -- `AND` ends the first comparison and has the second one on its right
  have hand : Continues 0 (.binary (a.tree d) op (b.tree d))
      (.and :: ((Expr.binary a' op' b').words d ++ []))
      (.binary (.binary (a.tree d) op (b.tree d)) .and ((Expr.binary a' op' b').tree d)) :=
    .operator (Nat.zero_le _) hright (closed_nil _) .nil
  have hclosed : Closed (op.precedence + 1) (.and :: ((Expr.binary a' op' b').words d ++ [])) := by
    rw [hop]
    exact closed_cons rfl _
  have hcontinues := Continues.operator (Nat.zero_le _) hb.reads hclosed hand
  have hreads := ha.continued (operandEnd_token op _) hcontinues
  unfold IsReadAt
  rw [words_binary d (hconcat (by decide)), words_binary d (hconcat (by omega)), tree,
    if_neg (hconcat (by decide)), tree, if_neg (hconcat (by omega))]
  rw [List.append_nil] at hreads
  rw [List.append_assoc]
  exact hreads

/-- A range between two operands is read as an expression. -/
theorem IsOperand.between {e low high : Expr} (he : e.IsOperand d) (hlow : low.IsOperand d)
    (hhigh : high.IsOperand d) : (Expr.between e low high false).IsReadAt d 0 := by
  have hwords : (Expr.between e low high false).words d =
      e.words d ++ Token.between :: (low.words d ++ Token.and :: high.words d) := by
    rw [words, tokens]
    simp only [significant_append, List.append_assoc]
    rfl
  unfold IsReadAt
  rw [hwords]
  exact he.continued (operandEnd_cons (by decide) (by decide))
    (.between (by omega) hlow.reads hhigh.reads)

/-- A test for a subquery is read as an expression, if the subquery has no parentheses of its own. -/
theorem IsOperand.inSubquery {e : Expr} (he : e.IsOperand d) {query : Query}
    (hquery : ∀ t ∈ significant (query.tokens d), t ≠ .lparen ∧ t ≠ .rparen) :
    (Expr.inSubquery e query false).IsReadAt d 0 := by
  have hwords : (Expr.inSubquery e query false).words d =
      e.words d ++ Token.inKw :: .lparen :: (significant (query.tokens d) ++ [Token.rparen]) := by
    rw [words, tokens]
    simp only [significant_append, List.append_assoc]
    rfl
  unfold IsReadAt
  rw [hwords]
  exact he.continued (operandEnd_cons (by decide) (by decide)) (.within (by omega) hquery)

/-- An expression that a rule may be applied to: it is read back, and wrapped where needed it is an
operand. -/
structure IsUsable (d : Dialect) (e : Expr) : Prop where
  isReadAt : e.IsReadAt d 0
  grouped : e.grouped.IsOperand d

/-- A primary is usable as it stands. -/
theorem IsPrimary.isUsable {e : Expr} (h : e.IsPrimary d) : e.IsUsable d := by
  refine ⟨h.isReadAt 0, ?_⟩
  -- whether it gets parentheses or not, it stays a primary
  have hparen : (Expr.paren e).IsOperand d := (IsReadAt.paren (h.isReadAt 0)).isOperand
  cases e <;> first | exact h.isOperand | exact hparen

/-- A binary operator is wrapped where it is an operand. -/
theorem IsReadAt.isUsable {left right : Expr} {op : BinaryOp}
    (h : (Expr.binary left op right).IsReadAt d 0) : (Expr.binary left op right).IsUsable d :=
  ⟨h, h.paren.isOperand⟩

end Expr

end Emit

/-! ## Rules -/

namespace Rule

open Emit.Expr

variable {d : Dialect} {e : Expr}

theorem isReadAt_lit (l : Literal) : (lit l).IsReadAt d 0 := (isPrimary_literal l).isReadAt 0

/-- A call on an expression and literals. -/
theorem call_isPrimary (h : e.IsReadAt d 0) (name : String) (ls : List Literal) :
    (Expr.function name (e :: ls.map lit)).IsPrimary d := by
  refine isPrimary_function (List.forall_mem_cons.2 ⟨h, ?_⟩) name
  intro a ha
  obtain ⟨l, -, rfl⟩ := List.mem_map.1 ha
  exact isReadAt_lit l

/-- A call on a literal and an expression after it. -/
theorem callLast_isPrimary (h : e.IsReadAt d 0) (name : String) (l : Literal) :
    (Expr.function name [lit l, e]).IsPrimary d := by
  refine isPrimary_function ?_ name
  simp only [List.forall_mem_cons]
  exact ⟨isReadAt_lit l, h, nofun⟩

theorem anonymized_isPrimary (h : e.IsReadAt d 0) : (anonymized d e).IsPrimary d := by
  have htext : (Expr.cast e (d.typeName .string)).IsReadAt d 0 :=
    (h.cast (d.typeName .string)).isReadAt 0
  unfold anonymized
  split
  · exact callLast_isPrimary htext "HASHBYTES" (.string "MD5")
  · exact call_isPrimary htext "STANDARD_HASH" [.string "MD5"]
  · exact call_isPrimary ((call_isPrimary htext "MD5" []).isReadAt 0) "TO_HEX" []
  · exact call_isPrimary htext "MD5" []

theorem inTimezone_isPrimary (h : e.IsReadAt d 0) (source target : String) :
    (inTimezone d source target e).IsPrimary d := by
  unfold inTimezone
  split
  · exact call_isPrimary h "CONVERT_TZ" [.string source, .string target]
  · have hsource := callLast_isPrimary h "TIMEZONE" (.string source)
    exact callLast_isPrimary (hsource.isReadAt 0) "TIMEZONE" (.string target)

theorem formatted_isPrimary (h : e.IsReadAt d 0) (name format : String) :
    (formatted d name format e).IsPrimary d := by
  unfold formatted
  split
  · exact callLast_isPrimary h name (.string format)
  · exact call_isPrimary h name [.string format]

/-- What was clipped is usable, with one bound, both or none. -/
theorem clipped_isUsable (h : e.IsUsable d) (lower upper : Option Literal) :
    (clipped lower upper e).IsUsable d := by
  have hbound {e : Expr} (h : e.IsUsable d) (name : String) (l : Literal) :
      (Expr.function name [e, lit l]).IsUsable d := (call_isPrimary h.isReadAt name [l]).isUsable
  cases lower with
  | none => cases upper with
    | none => exact h
    | some hi => exact hbound h "LEAST" hi
  | some lo => cases upper with
    | none => exact hbound h "GREATEST" lo
    | some hi => exact hbound (hbound h "GREATEST" lo) "LEAST" hi

/-! ## Rules with operators -/

/-- An operator between a wrapped operand and a literal. -/
theorem compare_isReadAt (h : e.IsUsable d) {op : BinaryOp} (hop : op ≠ .concat) (l : Literal) :
    (compare op e l).IsReadAt d 0 :=
  h.grouped.binary (isPrimary_literal l).isOperand (fun h => hop h.1) (Nat.zero_le _)

theorem keepWhen_isPrimary {condition : Expr} (hcondition : condition.IsReadAt d 0)
    (h : e.IsReadAt d 0) : (keepWhen condition e).IsPrimary d := by
  refine isPrimary_case ?_ ?_
  · simp only [List.forall_mem_cons]
    exact ⟨⟨hcondition, h⟩, nofun⟩
  · rintro _ ⟨⟩
    exact isReadAt_lit .null

/-- A truncated text is a primary, with the dots behind it or without. -/
theorem truncated_isPrimary (h : e.IsReadAt d 0) (length : Int) (addEllipsis : Bool) :
    (truncated length addEllipsis e).IsPrimary d := by
  have hcut := call_isPrimary h "SUBSTR" [.int 1, .int length]
  have hlength := call_isPrimary h "LENGTH" []
  cases addEllipsis with
  | false => exact hcut
  | true =>
    have htest : (Expr.binary (.function "LENGTH" [e]) .gt (.int length)).IsReadAt d 0 :=
      hlength.isOperand.binary (isPrimary_literal _).isOperand (by simp) (Nat.zero_le _)
    have hmarked := hcut.isOperand.concat (isPrimary_literal (.string "...")).isOperand
    refine isPrimary_case ?_ ?_
    · simp only [List.forall_mem_cons]
      exact ⟨⟨htest, hmarked⟩, nofun⟩
    · rintro _ ⟨⟩
      exact h

/-- The tests and labels of all buckets are read as expressions. -/
theorem buckets_isReadAt (h : e.IsUsable d) (edges labels : List Literal) :
    ∀ b ∈ buckets e edges labels, b.1.IsReadAt d 0 ∧ b.2.IsReadAt d 0 := by
  induction labels generalizing edges with
  | nil =>
    match edges with
    | [] | [_] | _ :: _ :: _ => exact nofun
  | cons label labels ih =>
    match edges with
    | [] | [_] => exact nofun
    | low :: high :: edges =>
      have hliteral (l : Literal) : (lit l).IsOperand d := (isPrimary_literal l).isOperand
      have hupper : (if labels.isEmpty then BinaryOp.lte else .lt).precedence = 2 := by
        cases labels <;> rfl
      refine List.forall_mem_cons.2 ⟨⟨?_, isReadAt_lit label⟩, ih (high :: edges)⟩
      exact isReadAt_and h.grouped (hliteral low) h.grouped (hliteral high) rfl hupper

theorem mapped_isPrimary (h : e.IsUsable d) (mapping : List (String × Literal))
    (caseSensitive : Bool) : (mapped mapping caseSensitive e).IsPrimary d := by
  refine isPrimary_case ?_ ?_
  · intro b hb
    obtain ⟨⟨key, value⟩, -, rfl⟩ := List.mem_map.1 hb
    cases caseSensitive with
    | true => exact ⟨compare_isReadAt h (by simp) (.string key), isReadAt_lit value⟩
    | false =>
      have hvalue := call_isPrimary h.isReadAt "LOWER" []
      have hkey := call_isPrimary (isReadAt_lit (d := d) (.string key)) "LOWER" []
      exact ⟨hvalue.isOperand.binary hkey.isOperand (by simp) (Nat.zero_le _), isReadAt_lit value⟩
  · rintro _ ⟨⟩
    exact h.isReadAt

theorem overall_isOperand (h : e.IsReadAt d 0) (name : String) : (overall name e).IsOperand d :=
  (call_isPrimary h name []).overAll

/-- A shifted and divided value is usable. -/
theorem quotient_isUsable (h : e.IsUsable d) {shift divisor : Expr} (hshift : shift.IsOperand d)
    (hdivisor : divisor.IsReadAt d 0) : (quotient e shift divisor).IsUsable d := by
  -- the difference has parentheses of its own, the divisor those of a call
  have hdifference : (Expr.binary e.grouped .minus shift).IsReadAt d 0 :=
    h.grouped.binary hshift (by simp) (Nat.zero_le _)
  have hnullif := call_isPrimary hdivisor "NULLIF" [.int 0]
  have hquotient : (quotient e shift divisor).IsReadAt d 0 :=
    hdifference.paren.isOperand.binary hnullif.isOperand (by simp) (Nat.zero_le _)
  exact hquotient.isUsable

/-- A telephone number is usable in every dialect. -/
theorem phoneNumber_isUsable (h : e.IsReadAt d 0) (countryCode : String) :
    (phoneNumber d countryCode e).IsUsable d := by
  have hdigits : (Expr.function "REGEXP_REPLACE" ([e, .str nonDigits, .str ""] ++
      if d = .duckdb ∨ d = .postgres then [Expr.str "g"] else [])).IsPrimary d := by
    split
    · exact call_isPrimary h "REGEXP_REPLACE" [.string nonDigits, .string "", .string "g"]
    · exact call_isPrimary h "REGEXP_REPLACE" [.string nonDigits, .string ""]
  have hnumber := (isPrimary_literal (.string countryCode)).isOperand.concat hdigits.isOperand
  exact hnumber.isUsable

/-- The query that reads a column of another table has no parentheses. -/
theorem lookup_noParens (table column : String) :
    ∀ t ∈ significant ((lookup table column).tokens d), t ≠ .lparen ∧ t ≠ .rparen := by
  have hwords (ref : TableRef) :
      significant ((Query.ofSource [(.col column, none)] (.table ref) []).tokens d) =
        [.select, .ident column, .fromKw, .qualifiedIdent ref.qualifier ref.table] := by
    simp [Query.ofSource, Query.tokens, selectTokens, separated, sourceTokens, TableExpr.tokens,
      TableRef.tokens, joinTokens, Expr.col, Expr.tokens, qualifierTokens, aliasTokens, significant,
      Token.isBlank]
  unfold lookup
  rw [hwords]
  simp

/-- Every rule wraps the operands that it has to wrap. -/
theorem apply_isUsable (h : e.IsUsable d) (r : Rule) : (r.apply d e).IsUsable d := by
  have he := h.isReadAt
  cases r with
  | anonymize => exact (anonymized_isPrimary he).isUsable
  | convertTimezone source target => exact (inTimezone_isPrimary he source target).isUsable
  | toLowercase => exact (call_isPrimary he "LOWER" []).isUsable
  | toUppercase => exact (call_isPrimary he "UPPER" []).isUsable
  | strip => exact (call_isPrimary he "TRIM" []).isUsable
  | roundNumbers decimals => exact (call_isPrimary he "ROUND" [.int decimals]).isUsable
  -- a product is put in parentheses
  | scale factor => exact (compare_isReadAt h (by simp) factor).paren.isUsable
  | formatDate format => exact (formatted_isPrimary he "STRFTIME" format).isUsable
  | toNumeric => exact (he.cast _).isUsable
  | toDatetime format => cases format with
    | none => exact (he.cast _).isUsable
    | some format => exact (formatted_isPrimary he "STRPTIME" format).isUsable
  | fillNa l => exact (call_isPrimary he "COALESCE" [l]).isUsable
  | replace oldValue newValue =>
    exact (call_isPrimary he "REPLACE" [.string oldValue, .string newValue]).isUsable
  | extract pattern => exact (call_isPrimary he "REGEXP_EXTRACT" [.string pattern]).isUsable
  | truncate length addEllipsis => exact (truncated_isPrimary he length addEllipsis).isUsable
  | pad width side padChar => exact (call_isPrimary he _ [.int width, .string padChar]).isUsable
  | clip lower upper => exact clipped_isUsable h lower upper
  | bin edges labels =>
    have hcase : (Expr.case (buckets e edges labels) none).IsPrimary d :=
      isPrimary_case (buckets_isReadAt h edges labels) nofun
    exact hcase.isUsable
  | normalize =>
    have hmin := overall_isOperand he "MIN"
    have hrange : (Expr.binary (overall "MAX" e) .minus (overall "MIN" e)).IsReadAt d 0 :=
      (overall_isOperand he "MAX").binary hmin (by simp) (Nat.zero_le _)
    exact quotient_isUsable h hmin hrange
  | standardize =>
    exact quotient_isUsable h (overall_isOperand he "AVG")
      ((overall_isOperand he "STDDEV").isReadAt 0)
  | mapValues mapping => exact (mapped_isPrimary h mapping true).isUsable
  -- these two change no expression
  | rename newName => exact h
  | removeDuplicates columns => exact h
  | encodeCategorical l =>
    refine (isPrimary_case ?_ ?_).isUsable
    · simp only [List.forall_mem_cons]
      exact ⟨⟨compare_isReadAt h (by simp) l, isReadAt_lit (.int 1)⟩, nofun⟩
    · rintro _ ⟨⟩
      exact isReadAt_lit (.int 0)
  | validateEmail =>
    have hmatches := call_isPrimary he "REGEXP_MATCHES" [.string emailPattern]
    exact (keepWhen_isPrimary (hmatches.isReadAt 0) he).isUsable
  | validateDateRange startDate endDate =>
    have hbound (date : String) : (Expr.str date).IsOperand d :=
      (isPrimary_literal (.string date)).isOperand
    have hinside := h.grouped.between (hbound startDate) (hbound endDate)
    exact (keepWhen_isPrimary hinside he).isUsable
  | normalizePhone countryCode => exact phoneNumber_isUsable he countryCode
  | validateForeignKey table column =>
    have hmember := h.grouped.inSubquery (lookup_noParens table column)
    exact (keepWhen_isPrimary hmember he).isUsable
  | ensurePositive dropNegative => cases dropNegative with
    | false => exact (call_isPrimary he "ABS" []).isUsable
    | true =>
      exact (keepWhen_isPrimary (compare_isReadAt h (by simp) (.int 0)) he).isUsable
  | standardizeCategories mapping caseSensitive =>
    exact (mapped_isPrimary h mapping caseSensitive).isUsable

/-- Rules that are applied one after the other leave something usable after each step. -/
theorem foldl_apply_isUsable (h : e.IsUsable d) (rules : List Rule) :
    (rules.foldl (apply d) e).IsUsable d := by
  induction rules generalizing e with
  | nil => exact h
  | cons r rules ih => exact ih (apply_isUsable h r)

end Rule

/-- What a column may start as: something that is held together without operators, and whose parts,
if it has any, are read back. -/
def Emit.Expr.IsStart (d : Dialect) : Expr → Prop
  | .column _ _ | .literal _ | .raw _ => True
  | .function _ args => ∀ a ∈ args, a.ReadsBack d
  | .case branches otherwise =>
    (∀ b ∈ branches, b.1.ReadsBack d ∧ b.2.ReadsBack d) ∧ ∀ e, otherwise = some e → e.ReadsBack d
  | .cast operand _ => operand.ReadsBack d
  | .paren inner => inner.ReadsBack d
  | .binary .. | .inSubquery .. | .between .. | .star _ | .overAll _ => False

/-- What a column starts as is a primary. -/
theorem Emit.Expr.IsStart.isPrimary {d : Dialect} {e : Expr} (h : e.IsStart d) :
    e.IsPrimary d := by
  cases e with
  | column table name => exact isPrimary_column table name
  | literal l => exact isPrimary_literal l
  | raw sql => exact isPrimary_raw sql
  | function name args =>
    exact isPrimary_function (fun a ha => readsBack_iff.1 (h a ha)) name
  | case branches otherwise =>
    refine isPrimary_case (fun b hb => ?_) fun e he => readsBack_iff.1 (h.2 e he)
    obtain ⟨htest, hvalue⟩ := h.1 b hb
    exact ⟨readsBack_iff.1 htest, readsBack_iff.1 hvalue⟩
  | cast operand type => exact (readsBack_iff.1 h).cast type
  | paren inner => exact (readsBack_iff.1 h).paren
  | binary | inSubquery | between | star | overAll => exact h.elim

/-- Whatever rules are applied to a column, the tokens of the result are read by precedence as the
operators that the rules have built, and as nothing else. -/
theorem Rule.foldl_apply_readsBack {d : Dialect} {e : Expr} (h : e.IsStart d)
    (rules : List Rule) : (rules.foldl (Rule.apply d) e).ReadsBack d :=
  Expr.readsBack_iff.2 (Rule.foldl_apply_isUsable h.isPrimary.isUsable rules).isReadAt

/-- The difference in the argument of a cast stays one operand of the rules that follow. -/
theorem Rule.foldl_apply_readsBack_cast :
    let difference := Expr.binary (.col "a") .minus (.col "b")
    difference.ReadsBack .mysql ∧
      ([Rule.normalize, .scale (.int 2), .validateDateRange "x" "y"].foldl (Rule.apply .mysql)
        (.cast difference "DOUBLE")).ReadsBack .mysql := by
  intro difference
  have hdifference : difference.ReadsBack .mysql := Expr.readsBack_iff.2 ⟨3, rfl⟩
  have hstart : (Expr.cast difference "DOUBLE").IsStart .mysql := hdifference
  exact ⟨hdifference, Rule.foldl_apply_readsBack hstart _⟩

/-- An argument that was built without the parentheses it needs is not read back: `a - (b - c)` is
written `a - b - c`. -/
theorem Rule.foldl_apply_regroups :
    ¬ ([Rule.toLowercase].foldl (Rule.apply .duckdb) (.function "F"
      [.binary (.col "a") .minus (.binary (.col "b") .minus (.col "c"))])).ReadsBack .duckdb := by
  intro h
  have hread : Reads 0 [.functionName "LOWER", .lparen, .functionName "F", .lparen, .ident "a",
      .minus, .ident "b", .minus, .ident "c", .rparen, .rparen]
      (.call "LOWER" [.call "F" [.binary (.binary (.column none "a") .minus (.column none "b"))
        .minus (.column none "c")]]) := ⟨8, rfl⟩
  exact nomatch (h _).1 hread

end DatasetSql
