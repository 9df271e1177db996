import DatasetSql.Proofs.Reading

/-!
# Where columns and strings come from

An expression that is a column or a string is its first lexemes and nothing else: every operator,
call or form makes an expression of another kind.
-/

namespace DatasetSql.Statement.Parser

variable {g : Grammar} {ls rest : List Lexeme}

/-! ## Readers that always give something of a kind -/

section Always

variable {α β : Type} {p : Parser α}

/-- A reader after another one starts where the first one stops. -/
theorem bind_eq_ok {f : α → Parser β} {b : β} : (p >>= f) ls = .ok (b, rest) ↔
    ∃ a t, p ls = .ok (a, t) ∧ f a t = .ok (b, rest) := by
  constructor
  · intro h
    cases hp : p ls with
    | error e =>
      simp only [bind, StateT.bind, hp, Except.bind] at h
      exact nomatch h
    | ok found => exact ⟨found.1, found.2, rfl, by rwa [bind_of_ok hp] at h⟩
  · rintro ⟨a, t, hp, h⟩
    rwa [bind_of_ok hp]

theorem map_eq_ok {f : α → β} {b : β} : (f <$> p) ls = .ok (b, rest) ↔
    ∃ a, p ls = .ok (a, rest) ∧ f a = b := by
  rw [map_eq_pure_bind, bind_eq_ok]
  constructor
  · rintro ⟨a, t, hp, h⟩
    obtain ⟨rfl, rfl⟩ := Prod.mk.inj (Except.ok.inj h)
    exact ⟨a, hp, rfl⟩
  · rintro ⟨a, hp, rfl⟩
    exact ⟨a, rest, hp, rfl⟩

/-- A reader that is tried gives what it gives, or nothing and leaves the lexemes alone. -/
theorem maybe_eq_ok {x : Option α} (h : maybe p ls = .ok (x, rest)) :
    (∃ a, x = some a ∧ p ls = .ok (a, rest)) ∨ x = none ∧ rest = ls := by
  unfold maybe at h
  split at h
  next a t hp =>
    obtain ⟨rfl, rfl⟩ := Prod.mk.inj (Except.ok.inj h)
    exact .inl ⟨a, rfl, hp⟩
  · cases h
  · obtain ⟨rfl, rfl⟩ := Prod.mk.inj (Except.ok.inj h)
    exact .inr ⟨rfl, rfl⟩

/-- Whatever a reader gives is of a kind. -/
def Always (P : α → Prop) (p : Parser α) : Prop := ∀ ls a rest, p ls = .ok (a, rest) → P a

variable {P : β → Prop}

theorem Always.pure {b : β} (h : P b) : Always P (pure b) := by
  intro ls a rest heq
  obtain ⟨rfl, -⟩ := Prod.mk.inj (Except.ok.inj heq)
  exact h

theorem Always.fail : Always P Parser.fail := fun _ _ _ h => nomatch h

/-- What the second of two readers always gives, both together always give. -/
theorem Always.bind {f : α → Parser β} (h : ∀ a, Always P (f a)) : Always P (p >>= f) := by
  intro ls b rest heq
  obtain ⟨a, t, -, hf⟩ := bind_eq_ok.1 heq
  exact h a t b rest hf

theorem Always.map {f : α → β} (h : ∀ a, P (f a)) : Always P (f <$> p) := by
  intro ls b rest heq
  obtain ⟨a, -, rfl⟩ := map_eq_ok.1 heq
  exact h a

/-- What both branches always give is always given. -/
theorem Always.ite {c : Prop} [Decidable c] {p q : Parser β} (hp : Always P p) (hq : Always P q) :
    Always P (if c then p else q) := by
  split_ifs
  · exact hp
  · exact hq

theorem Always.parenthesized {p : Parser β} (h : Always P p) : Always P (parenthesized p) := by
  intro ls b rest heq
  obtain ⟨-, t, -, heq⟩ := bind_eq_ok.1 heq
  obtain ⟨a, t', hp, heq⟩ := bind_eq_ok.1 heq
  obtain ⟨-, t'', -, heq⟩ := bind_eq_ok.1 heq
  obtain ⟨rfl, -⟩ := Prod.mk.inj (Except.ok.inj heq)
  exact h t a t' hp

end Always

/-! ## Operators -/

/-- Whether an expression is put together from others. -/
def Composed : Expr → Prop
  | .ident _ | .compound _ | .value _ => False
  | _ => True

/-- A binary operator gives a composed expression. -/
theorem always_binaryExpr (r : Nested) (strength : Nat) (left : Expr) (operator : String) :
    Always Composed (binaryExpr r strength left operator) := by
  refine .bind fun k => ?_
  cases k with
  | none => exact .bind fun _ => .pure trivial
  | some k =>
    refine .bind fun nested => .ite (.bind fun right => ?_) (.bind fun right => ?_)
    · refine .ite (.pure trivial) (.bind fun _ => .pure trivial)
    · refine .ite (.pure trivial) (.bind fun _ => .pure trivial)

theorem always_isExpr (r : Nested) (left : Expr) : Always Composed (isExpr r left) := by
  refine .bind fun negated => .bind fun k => ?_
  cases k with
  | none => exact .bind fun _ => .bind fun _ => .pure trivial
  | some k => exact .pure trivial

theorem always_inExpr (r : Nested) (start : Phrase) : Always Composed (inExpr g r start) := by
  refine .bind fun unnest => .ite (.bind fun _ => .pure trivial) (.parenthesized ?_)
  exact .bind fun query => .ite (.bind fun _ => .pure trivial) (.bind fun _ => .pure trivial)

theorem always_patternExpr (r : Nested) (start : Phrase) (words : String) :
    Always Composed (patternExpr g r start words) := by
  refine .bind fun pattern => .bind fun escape => .ite ?_ (.bind fun _ => .pure trivial)
  exact .bind fun _ => .bind fun _ => .pure trivial

theorem always_testExpr (r : Nested) (left : Expr) : Always Composed (testExpr g r left) := by
  refine .bind fun negated => .bind fun regexp => .bind fun rlike => .ite ?_ ?_
  · exact .bind fun _ => .pure trivial
  · refine .bind fun k => ?_
    split
    · exact always_inExpr r _
    · exact .bind fun _ => .bind fun _ => .bind fun _ => .pure trivial
    · exact .bind fun _ => always_patternExpr r _ _
    · exact .bind fun any => always_patternExpr r _ _

theorem always_elementExpr (r : Nested) (left : Expr) : Always Composed (elementExpr g r left) := by
  unfold elementExpr
  split
  · exact .bind fun _ => .bind fun _ => .pure trivial
  · exact .bind fun _ => .bind fun _ => .pure trivial
  · exact .bind fun _ => .bind fun _ => .pure trivial
  · exact .bind fun _ => .pure trivial
  · exact .bind fun _ => .pure trivial
  · exact .bind fun _ => .pure trivial

/-- Whatever is read behind an operand as an operator gives an expression with one. -/
theorem always_infixForm (r : Nested) (strength : Nat) (left : Expr) :
    Always Composed (infixForm g r strength left) := by
  refine .bind fun l => ?_
  split
  · exact .bind fun _ => .bind fun _ => .pure trivial
  · exact .bind fun _ => .ite (.pure trivial) .fail
  · exact always_elementExpr r left
  · exact .bind fun _ => .pure trivial
  · exact .fail
  · split
    · exact .bind fun _ => always_isExpr r left
    · exact .bind fun _ => .bind fun _ => .pure trivial
    · exact .bind fun _ => .ite (.bind fun _ => .pure trivial) .fail
    · exact always_testExpr r left
  · exact .fail

/-- The operators that are read at one strength give a composed expression. -/
theorem always_infixExpr (r : Nested) (strength : Nat) (left : Expr) :
    Always Composed (infixExpr g r strength left) := by
  refine .bind fun operator => ?_
  cases operator with
  | none => exact always_infixForm r strength left
  | some operator => exact always_binaryExpr r strength left operator

/-- Operators leave an expression as it is, or make another one of it. -/
theorem operatorsFrom_eq_or_composed {r : Nested} {strength m : Nat} {e e' : Expr}
    (h : operatorsFrom g r strength m e ls = .ok (e', rest)) :
    e' = e ∧ rest = ls ∨ Composed e' := by
  induction m generalizing e ls with
  | zero =>
    obtain ⟨rfl, rfl⟩ := Prod.mk.inj (Except.ok.inj h)
    exact .inl ⟨rfl, rfl⟩
  | succ m ih =>
    rw [operatorsFrom, bind_of_ok rfl] at h
    split_ifs at h
    · obtain ⟨rfl, rfl⟩ := Prod.mk.inj (Except.ok.inj h)
      exact .inl ⟨rfl, rfl⟩
    · obtain ⟨e₁, t, he₁, h⟩ := bind_eq_ok.1 h
      have hcomposed : Composed e₁ := always_infixExpr r _ _ _ _ _ he₁
      rcases ih h with ⟨rfl, -⟩ | h
      · exact .inr hcomposed
      · exact .inr h

/-! ## Operands -/

/-- A symbol is taken if it is the next lexeme, and nothing otherwise. -/
theorem symbol_eq (s : String) (ls : List Lexeme) :
    symbol s ls = if (ls[0]?).any (·.isSymbol s) then .ok (true, ls.tail) else .ok (false, ls) := by
  have hpeek : peekSymbol s ls = .ok ((ls[0]?).any (·.isSymbol s), ls) := rfl
  rw [symbol, bind_of_ok hpeek]
  split_ifs <;> rfl

/-- A symbol that is not there leaves the lexemes alone. -/
theorem eq_of_symbol_false {s : String} (h : symbol s ls = .ok (false, rest)) : rest = ls := by
  rw [symbol_eq] at h
  split_ifs at h
  · cases h
  · exact (Prod.mk.inj (Except.ok.inj h)).2.symm

/-- A keyword is taken if it is the next lexeme, and nothing otherwise. -/
theorem keyword_eq (k : String) (ls : List Lexeme) : keyword k ls =
    if (ls[0]?).any (·.isKeyword k) then .ok (true, ls.tail) else .ok (false, ls) := by
  have hpeek : peekKeyword k ls = .ok ((ls[0]?).any (·.isKeyword k), ls) := rfl
  rw [keyword, bind_of_ok hpeek]
  split_ifs <;> rfl

/-- A keyword that is not there moves nothing. -/
theorem eq_of_keyword_false {k : String} (h : keyword k ls = .ok (false, rest)) : rest = ls := by
  rw [keyword_eq] at h
  split_ifs at h
  · cases h
  · exact (Prod.mk.inj (Except.ok.inj h)).2.symm

/-- A method that is not there moves nothing. -/
theorem eq_of_method_none {r : Nested} {intervalOf : Parser Expr}
    (h : method g r intervalOf ls = .ok (none, rest)) : rest = ls := by
  obtain ⟨dot, t, hdot, h⟩ := bind_eq_ok.1 h
  cases dot with
  | false =>
    obtain ⟨-, rfl⟩ := Prod.mk.inj (Except.ok.inj h)
    exact eq_of_symbol_false hdot
  | true =>
    obtain ⟨l, t', -, h⟩ := bind_eq_ok.1 h
    split at h
    · obtain ⟨_, _, -, h⟩ := bind_eq_ok.1 h
      cases (Prod.mk.inj (Except.ok.inj h)).1
    · cases h

/-- Repeating a reader that leaves the lexemes alone if it finds nothing. -/
theorem eq_of_many_nil {α : Type} {p : Parser (Option α)}
    (hp : ∀ {ls rest}, p ls = .ok (none, rest) → rest = ls) (h : many p ls = .ok ([], rest)) :
    rest = ls := by
  rw [many, bind_of_ok rfl, manyFrom] at h
  obtain ⟨a, t, ha, h⟩ := bind_eq_ok.1 h
  cases a with
  | none =>
    obtain ⟨-, rfl⟩ := Prod.mk.inj (Except.ok.inj h)
    exact hp ha
  | some a =>
    obtain ⟨_, _, -, h⟩ := bind_eq_ok.1 h
    cases (Prod.mk.inj (Except.ok.inj h)).1

/-- Behind an operand either no method is read and nothing moves, or the result is composed. -/
theorem withMethods_eq_or_composed {r : Nested} {intervalOf : Parser Expr} {e e' : Expr}
    (h : withMethods g r intervalOf e ls = .ok (e', rest)) :
    e' = e ∧ rest = ls ∨ Composed e' := by
  unfold withMethods at h
  split_ifs at h
  · obtain ⟨rfl, rfl⟩ := Prod.mk.inj (Except.ok.inj h)
    exact .inl ⟨rfl, rfl⟩
  · obtain ⟨found, t, hfound, h⟩ := bind_eq_ok.1 h
    split at h
    · obtain ⟨rfl, -⟩ := Prod.mk.inj (Except.ok.inj h)
      exact .inr trivial
    next hnone =>
      obtain ⟨rfl, rfl⟩ := Prod.mk.inj (Except.ok.inj h)
      refine .inl ⟨rfl, ?_⟩
      rcases maybe_eq_ok hfound with ⟨ms, rfl, hms⟩ | ⟨-, rfl⟩
      · cases ms with
        | nil => exact eq_of_many_nil eq_of_method_none hms
        | cons m ms => exact absurd rfl (hnone m ms)
      · rfl

/-- What an expression that a name opens can be: the name alone, the name with what it qualifies, or
something put together. -/
def ColumnFrom (g : Grammar) (i : Ident) (ls : List Lexeme) (e : Expr) (rest : List Lexeme) : Prop :=
  e = .ident i ∧ rest = ls ∨
    (∃ parts m, e = .compound parts ∧ dottedName g m [i] ls = .ok ((parts, false), rest)) ∨
      Composed e

/-- A name is read as a column, or as something composed. -/
theorem columnFrom_nameExpr {r : Nested} {intervalOf : Parser Expr} {i : Ident} {e : Expr}
    (h : nameExpr g r intervalOf i ls = .ok (e, rest)) : ColumnFrom g i ls e rest := by
  have hident (h : (pure (.ident i) : Parser Expr) ls = .ok (e, rest)) : ColumnFrom g i ls e rest := by
    obtain ⟨rfl, rfl⟩ := Prod.mk.inj (Except.ok.inj h)
    exact .inl ⟨rfl, rfl⟩
  -- what follows the name decides: a dot, a call, or neither
  obtain ⟨l, t, hl, h⟩ := bind_eq_ok.1 h
  obtain ⟨-, rfl⟩ := Prod.mk.inj (Except.ok.inj hl)
  split at h
  · split_ifs at h
    · rw [bind_of_ok rfl] at h
      obtain ⟨⟨parts, wildcard⟩, t, hparts, h⟩ := bind_eq_ok.1 h
      cases wildcard with
      | true =>
        obtain ⟨rfl, -⟩ := Prod.mk.inj (Except.ok.inj h)
        exact .inr (.inr trivial)
      | false =>
        dsimp only at h
        rw [if_neg Bool.false_ne_true] at h
        obtain ⟨mark, t', hmark, h⟩ := bind_eq_ok.1 h
        obtain ⟨-, rfl⟩ := Prod.mk.inj (Except.ok.inj hmark)
        split_ifs at h
        · obtain ⟨_, _, -, h⟩ := bind_eq_ok.1 h
          obtain ⟨rfl, -⟩ := Prod.mk.inj (Except.ok.inj h)
          exact .inr (.inr trivial)
        · obtain ⟨isCall, t', hcall, h⟩ := bind_eq_ok.1 h
          obtain ⟨-, rfl⟩ := Prod.mk.inj (Except.ok.inj hcall)
          split_ifs at h
          · obtain ⟨e₁, t', he₁, h⟩ := bind_eq_ok.1 h
            obtain ⟨_, -, rfl⟩ := map_eq_ok.1 he₁
            rcases withMethods_eq_or_composed h with ⟨rfl, -⟩ | h
            · exact .inr (.inr trivial)
            · exact .inr (.inr h)
          · obtain ⟨rfl, rfl⟩ := Prod.mk.inj (Except.ok.inj h)
            exact .inr (.inl ⟨parts, _, rfl, hparts⟩)
    · exact hident h
  · split_ifs at h
    · obtain ⟨_, _, -, h⟩ := bind_eq_ok.1 h
      obtain ⟨rfl, -⟩ := Prod.mk.inj (Except.ok.inj h)
      exact .inr (.inr trivial)
    · exact hident h
  · exact hident h

theorem always_typedLiteral : Always Composed (typedLiteral g) := by
  refine .bind fun type => .ite (.bind fun _ => .pure trivial) ?_
  exact .bind fun _ => .bind fun _ => .pure trivial

theorem always_arrayExpr (r : Nested) (opening : String) :
    Always Composed (arrayExpr g r opening) :=
  .bind fun _ => .bind fun _ => .pure trivial

/-- The first part of an operand, which its first lexeme opens. -/
def operandHead (g : Grammar) (r : Nested) (intervalOf : Parser Expr) :
    Lexeme → Parser (Expr × Bool)
  | .word i k => wordOperand g r intervalOf i k
  | .literal v@(.escaped _) =>
    if g == .postgres || g == .generic then return (.value v, false) else fail
  | .literal v => return (.value v, false)
  | .symbol s => return (← symbolOperand g r intervalOf s, false)
  | .hyphen => return (← symbolOperand g r intervalOf "-", false)
  | .operator _ => fail

/-- What may follow the first part of an operand, which is there unless the operand ends. -/
def operandTail (g : Grammar) (r : Nested) (intervalOf : Parser Expr) (first : Expr × Bool) :
    Parser Expr := do
  if first.2 then return first.1
  let e ← withMethods g r intervalOf first.1
  if ← keyword "COLLATE" then return loose (e ++ " COLLATE " ++ (← objectName g))
  return e

/-- What follows the first part of an operand leaves it as it is, or makes another one of it. -/
theorem operandTail_eq_or_composed {r : Nested} {intervalOf : Parser Expr} {first : Expr × Bool}
    {e : Expr} (h : operandTail g r intervalOf first ls = .ok (e, rest)) :
    e = first.1 ∧ rest = ls ∨ Composed e := by
  unfold operandTail at h
  split_ifs at h
  · obtain ⟨rfl, rfl⟩ := Prod.mk.inj (Except.ok.inj h)
    exact .inl ⟨rfl, rfl⟩
  · obtain ⟨e₁, t, he₁, h⟩ := bind_eq_ok.1 h
    obtain ⟨collated, t', hcollated, h⟩ := bind_eq_ok.1 h
    cases collated with
    | true =>
      obtain ⟨_, _, -, h⟩ := bind_eq_ok.1 h
      obtain ⟨rfl, -⟩ := Prod.mk.inj (Except.ok.inj h)
      exact .inr trivial
    | false =>
      obtain ⟨rfl, rfl⟩ := Prod.mk.inj (Except.ok.inj h)
      rw [eq_of_keyword_false hcollated]
      exact withMethods_eq_or_composed he₁

section Operand

variable {r : Nested} {m : Nat} {e : Expr}

/-- An operand is a literal of a type, or what its first lexeme opens with what follows that. -/
theorem operandFrom_eq_ok {l : Lexeme} (h : operandFrom g r (m + 1) (l :: ls) = .ok (e, rest)) :
    Composed e ∨ ∃ first t, operandHead g r (interval g r (operandFrom g r m)) l ls = .ok (first, t) ∧
      (e = first.1 ∧ rest = t ∨ Composed e) := by
  obtain ⟨typed, t, htyped, h⟩ := bind_eq_ok.1 h
  rcases maybe_eq_ok htyped with ⟨e', rfl, htyped'⟩ | ⟨rfl, rfl⟩
  · obtain ⟨rfl, -⟩ := Prod.mk.inj (Except.ok.inj h)
    exact .inl (always_typedLiteral _ _ _ htyped')
  -- the reader looks at the first lexeme once; its cases are regrouped into a head and a tail
  · have h : (operandHead g r (interval g r (operandFrom g r m)) l >>=
        operandTail g r (interval g r (operandFrom g r m))) ls = .ok (e, rest) := by
      cases l with
      | literal v =>
        cases v with
        | escaped s =>
          rw [operandHead]
          cases hg : (g == .postgres || g == .generic) with
          | true =>
            simp only [bind_of_ok (show next (.literal (.escaped s) :: ls) = _ from rfl), hg] at h
            exact h
          | false =>
            simp only [bind_of_ok (show next (.literal (.escaped s) :: ls) = _ from rfl), hg] at h
            exact h
        | _ => exact h
      | symbol s =>
        rw [operandHead, bind_assoc]
        exact h
      | hyphen =>
        rw [operandHead, bind_assoc]
        exact h
      | _ => exact h
    obtain ⟨first, t, hfirst, h⟩ := bind_eq_ok.1 h
    exact .inr ⟨first, t, hfirst, operandTail_eq_or_composed h⟩

/-- An operand that a name opens. -/
theorem columnFrom_operandFrom {s : String} {q : Char}
    (h : operandFrom g r (m + 1) (quotedWord q s :: ls) = .ok (e, rest)) :
    ColumnFrom g ⟨s, some q⟩ ls e rest := by
  rcases operandFrom_eq_ok h with he | ⟨⟨e₁, ends⟩, t, hword, ⟨rfl, rfl⟩ | he⟩
  · exact .inr (.inr he)
  · simp only [quotedWord, operandHead, wordOperand, specialForm_quoted] at hword
    cases hname : nameExpr g r (interval g r (operandFrom g r m)) ⟨s, some q⟩ ls with
    | error error =>
      rw [hname] at hword
      cases hword
    | ok found =>
      rw [hname] at hword
      obtain ⟨hfirst, rfl⟩ := Prod.mk.inj (Except.ok.inj hword)
      obtain ⟨rfl, -⟩ := Prod.mk.inj hfirst
      exact columnFrom_nameExpr hname
  · exact .inr (.inr he)

/-- An operand that a literal opens. -/
theorem operandFrom_literal {v : Value}
    (h : operandFrom g r (m + 1) (.literal v :: ls) = .ok (e, rest)) :
    e = .value v ∧ rest = ls ∨ Composed e := by
  rcases operandFrom_eq_ok h with he | ⟨first, t, hfirst, ⟨rfl, rfl⟩ | he⟩
  · exact .inr he
  · have hvalue : first.1 = .value v ∧ rest = ls := by
      cases v with
      | escaped s =>
        rw [operandHead] at hfirst
        split_ifs at hfirst
        · obtain ⟨rfl, rfl⟩ := Prod.mk.inj (Except.ok.inj hfirst)
          exact ⟨rfl, rfl⟩
        · cases hfirst
      | _ =>
        obtain ⟨rfl, rfl⟩ := Prod.mk.inj (Except.ok.inj hfirst)
        exact ⟨rfl, rfl⟩
    exact .inl hvalue
  · exact .inr he

/-- An operand that a delimiter without a name opens. -/
theorem operandFrom_quote {q : Char} (hq : q = '"' ∨ q = '`' ∨ q = '[')
    (h : operandFrom g r (m + 1) (.symbol (String.singleton q) :: ls) = .ok (e, rest)) :
    Composed e := by
  rcases operandFrom_eq_ok h with he | ⟨first, t, hfirst, ⟨rfl, rfl⟩ | he⟩
  · exact he
  · obtain ⟨e₁, t, he₁, hfirst⟩ := bind_eq_ok.1 hfirst
    obtain ⟨rfl, -⟩ := Prod.mk.inj (Except.ok.inj hfirst)
    rcases hq with rfl | rfl | rfl
    · cases g <;> cases he₁
    · cases g <;> cases he₁
    · exact always_arrayExpr r "[" _ _ _ he₁
  · exact he

end Operand

/-! ## Expressions -/

section Expression

variable {r r' : Nested} {strength : Nat} {e : Expr}

/-- An expression is an operand, or put together from one. -/
theorem exprLevel_eq_ok (h : exprLevel g r strength ls = .ok (e, rest)) :
    (∃ m, operandFrom g r (m + 1) ls = .ok (e, rest)) ∨ Composed e := by
  obtain ⟨e₁, t, hoperand, h⟩ := bind_eq_ok.1 h
  rw [operand, bind_of_ok rfl] at hoperand
  rw [bind_of_ok rfl] at h
  rcases operatorsFrom_eq_or_composed h with ⟨rfl, rfl⟩ | he
  · exact .inl ⟨_, hoperand⟩
  · exact .inr he

/-- An expression that is no wildcard is one. -/
theorem anyExpr_of_exprOrWildcard (h : exprOrWildcard r ls = .ok (.expr e, rest)) :
    anyExpr r ls = .ok (e, rest) := by
  have hqualified {i : Ident} (h : qualifiedWildcard r i ls = .ok (.expr e, rest)) :
      anyExpr r ls = .ok (e, rest) := by
    rw [qualifiedWildcard, bind_of_ok rfl, bind_of_ok rfl] at h
    obtain ⟨table, t, -, h⟩ := bind_eq_ok.1 h
    cases table with
    | some table => cases (Prod.mk.inj (Except.ok.inj h)).1
    | none =>
      have h : (Item.expr <$> anyExpr r) ls = .ok (.expr e, rest) := h
      obtain ⟨e', he', heq⟩ := map_eq_ok.1 h
      cases heq
      exact he'
  -- a wildcard gives no expression, so one of the readers of expressions was used
  obtain ⟨ls', t, hls, h⟩ := bind_eq_ok.1 h
  obtain ⟨rfl, rfl⟩ := Prod.mk.inj (Except.ok.inj hls)
  split at h
  · obtain ⟨_, _, -, h⟩ := bind_eq_ok.1 h
    cases (Prod.mk.inj (Except.ok.inj h)).1
  · exact hqualified h
  · exact hqualified h
  · obtain ⟨e', he', heq⟩ := map_eq_ok.1 h
    cases heq
    exact he'

/-- An item that is not put together is an expression with an alias. In one grammar, an alias might
have stood before it. -/
theorem item_eq_ok {asName : Option Ident} (h : item g r ls = .ok ((e, asName), rest))
    (he : ¬ Composed e) (halias : g = .tsql → asName = none) :
    ∃ t, anyExpr r ls = .ok (e, t) ∧
      optionalAlias columnAliasReserved t = .ok (asName, rest) := by
  obtain ⟨found, t, hfound, h⟩ := bind_eq_ok.1 h
  -- whatever way an expression is found, an alias is read behind it
  have hexpr {e' : Expr} (hfound : exprOrWildcard r ls = .ok (.expr e', t))
      (h : (do return (e', ← optionalAlias columnAliasReserved)) t = .ok ((e, asName), rest)) :
      ∃ t, anyExpr r ls = .ok (e, t) ∧
        optionalAlias columnAliasReserved t = .ok (asName, rest) := by
    obtain ⟨asName', t', hread, h⟩ := bind_eq_ok.1 h
    obtain ⟨hitem, rfl⟩ := Prod.mk.inj (Except.ok.inj h)
    obtain ⟨rfl, rfl⟩ := Prod.mk.inj hitem
    exact ⟨t, anyExpr_of_exprOrWildcard hfound, hread⟩
  split at h
  · obtain ⟨_, _, -, h⟩ := bind_eq_ok.1 h
    obtain ⟨hitem, -⟩ := Prod.mk.inj (Except.ok.inj h)
    obtain ⟨rfl, -⟩ := Prod.mk.inj hitem
    exact absurd trivial he
  · split_ifs at h
    · cases h
    · exact hexpr hfound h
  -- in T-SQL an alias may stand before the expression, which is then no plain item
  · split_ifs at h with hg
    · obtain ⟨hitem, -⟩ := Prod.mk.inj (Except.ok.inj h)
      obtain ⟨-, rfl⟩ := Prod.mk.inj hitem
      cases halias (eq_of_beq hg)
    · exact hexpr hfound h
  · exact hexpr hfound h

end Expression

/-! ## Names -/

/-- What follows a name adds to its parts. -/
theorem prefix_of_dottedName {m : Nat} {parts parts' : List Ident} {wildcard : Bool}
    (h : dottedName g m parts ls = .ok ((parts', wildcard), rest)) : parts <+: parts' := by
  have hself {parts : List Ident} {t : List Lexeme} {b : Bool}
      (h : (pure (parts, b) : Parser (List Ident × Bool)) t = .ok ((parts', wildcard), rest)) :
      parts <+: parts' := by
    obtain ⟨hparts, -⟩ := Prod.mk.inj (Except.ok.inj h)
    obtain ⟨rfl, -⟩ := Prod.mk.inj hparts
    exact List.prefix_rfl
  -- each step adds a part behind those that were read
  induction m generalizing parts ls with
  | zero => cases h
  | succ m ih =>
    obtain ⟨dot, t, -, h⟩ := bind_eq_ok.1 h
    cases dot with
    | false => exact hself h
    | true =>
      obtain ⟨l, t', -, h⟩ := bind_eq_ok.1 h
      split at h
      · exact (List.prefix_append ..).trans (ih h)
      · exact (List.prefix_append ..).trans (ih h)
      · split_ifs at h
        · exact hself h
        · cases h
      · cases h

/-- The parts of a name are read one behind the other, so those that were read stay in front. -/
theorem prefix_of_nameTail {doubleDots : Bool} {m : Nat} {parts parts' : List Ident}
    (h : nameTail doubleDots m parts ls = .ok (parts', rest)) : parts <+: parts' := by
  induction m generalizing parts ls with
  | zero => cases h
  | succ m ih =>
    obtain ⟨dot, t, -, h⟩ := bind_eq_ok.1 h
    cases dot with
    | false =>
      obtain ⟨rfl, -⟩ := Prod.mk.inj (Except.ok.inj h)
      exact List.prefix_rfl
    | true =>
      obtain ⟨double, t', -, h⟩ := bind_eq_ok.1 h
      -- with one dot or two, a name is added and the reading goes on
      have hnext {parts₁ : List Ident} {t : List Lexeme}
          (h : (ident >>= fun i => nameTail doubleDots m (parts₁ ++ [i])) t = .ok (parts', rest)) :
          parts₁ <+: parts' := by
        obtain ⟨i, t', -, h⟩ := bind_eq_ok.1 h
        exact (List.prefix_append ..).trans (ih h)
      cases double with
      | true => exact (List.prefix_append ..).trans (hnext h)
      | false => exact hnext h

/-! ## Tables -/

/-- Pivots leave a relation as it is, or make another one of it. -/
theorem eq_or_form_of_pivotsFrom {r : Nested} {m : Nat} {relation relation' : Relation}
    (h : pivotsFrom g r m relation ls = .ok (relation', rest)) :
    relation' = relation ∨ ∃ parts asName tail, relation' = .form parts asName tail := by
  induction m generalizing relation ls with
  | zero =>
    obtain ⟨rfl, -⟩ := Prod.mk.inj (Except.ok.inj h)
    exact .inl rfl
  | succ m ih =>
    -- a pivot puts its table into a form, and further ones do so again
    have hform {parts : Phrase} {t : List Lexeme}
        (h : (formed g parts >>= pivotsFrom g r m) t = .ok (relation', rest)) :
        ∃ parts asName tail, relation' = .form parts asName tail := by
      obtain ⟨relation₁, t', hrelation₁, h⟩ := bind_eq_ok.1 h
      obtain ⟨asName, t'', -, hrelation₁⟩ := bind_eq_ok.1 hrelation₁
      obtain ⟨rfl, -⟩ := Prod.mk.inj (Except.ok.inj hrelation₁)
      rcases ih h with rfl | h
      · exact ⟨_, _, _, rfl⟩
      · exact h
    obtain ⟨pivoted, t, -, h⟩ := bind_eq_ok.1 h
    cases pivoted with
    | true =>
      obtain ⟨p, t', -, h⟩ := bind_eq_ok.1 h
      exact .inr (hform h)
    | false =>
      obtain ⟨unpivoted, t', -, h⟩ := bind_eq_ok.1 h
      cases unpivoted with
      | true =>
        obtain ⟨p, t', -, h⟩ := bind_eq_ok.1 h
        exact .inr (hform h)
      | false =>
        obtain ⟨rfl, -⟩ := Prod.mk.inj (Except.ok.inj h)
        exact .inl rfl

/-- A table has the name and the alias that stand there. -/
theorem aliasedTable_eq_ok {r : Nested} {name name' : ObjectName} {isCall isCall' : Bool}
    {detail detail' version tail : Phrase} {asName : Option TableAlias}
    (h : aliasedTable g r name' isCall' detail' version ls =
      .ok (.table name isCall detail asName tail, rest)) :
    name = name' ∧ ∃ t, tableAlias g ls = .ok (asName, t) := by
  obtain ⟨asName', t, halias, h⟩ := bind_eq_ok.1 h
  obtain ⟨hints, t₁, -, h⟩ := bind_eq_ok.1 h
  obtain ⟨relation, t₂, hrelation, h⟩ := bind_eq_ok.1 h
  obtain ⟨matching, t₃, -, h⟩ := bind_eq_ok.1 h
  -- a match and a pivot give a form, which is no table
  cases matching with
  | true =>
    obtain ⟨m, t₄, -, h⟩ := bind_eq_ok.1 h
    obtain ⟨_, _, -, h⟩ := bind_eq_ok.1 h
    cases (Prod.mk.inj (Except.ok.inj h)).1
  | false =>
    obtain ⟨rfl, -⟩ := Prod.mk.inj (Except.ok.inj h)
    rcases eq_or_form_of_pivotsFrom hrelation with heq | ⟨_, _, _, heq⟩
    · obtain ⟨rfl, -, -, rfl, -⟩ := Relation.table.inj heq
      exact ⟨rfl, t, halias⟩
    · cases heq

/-- The name of a table is read first, whatever follows it. -/
theorem namedTable_eq_ok {r : Nested} {name : ObjectName} {isCall : Bool} {detail tail : Phrase}
    {asName : Option TableAlias}
    (h : namedTable g r ls = .ok (.table name isCall detail asName tail, rest)) :
    ∃ t, tableName g ls = .ok (name, t) := by
  obtain ⟨name', t, hname, h⟩ := bind_eq_ok.1 h
  have htail (isCall' : Bool) (detail' version : Phrase) :
      Always (· = .table name isCall detail asName tail → name = name')
        (aliasedTable g r name' isCall' detail' version) := by
    rintro ls relation rest h rfl
    exact (aliasedTable_eq_ok h).1
  have hname' : name = name' := by
    refine Always.bind (P := (· = .table name isCall detail asName tail → name = name'))
      (fun _ => .ite (.bind fun path => ?_) (.bind fun path => ?_)) t _ rest h rfl
    all_goals
      refine .bind fun partitions => .bind fun version => .bind fun called => .ite ?_ ?_
      · exact .bind fun args => .bind fun ordinality => htail called _ version
      · exact .bind fun args => .bind fun ordinality => htail called _ version
  rw [hname']
  exact ⟨t, hname⟩

end DatasetSql.Statement.Parser
