import DatasetSql.Emit.Query
import Mathlib.Data.List.Forall2

/-!
# Reading tokens by precedence

A reader that turns the tokens of an expression into an operator tree by the usual precedence of
SQL: calls, `CASE`, `CAST`, `OVER` and parentheses bind tightest, then `*` and `/`, then `-` and
concatenation, then comparisons, `BETWEEN` and `IN`, then `AND`; operators of one precedence group
to the left. Readers take a bound on their steps. What a reader has found stays the same if it may
take more steps and if more tokens follow, as long as these cannot continue what was read.
-/

namespace DatasetSql.Emit

/-! ## Operator trees -/

/-- What an expression says once its parentheses are gone. Of a query, only its tokens are kept. -/
inductive OperatorTree where
  | column (table : Option String) (name : String)
  | star (table : Option String)
  | literal (value : Literal)
  | raw (sql : String)
  | binary (left : OperatorTree) (op : BinaryOp) (right : OperatorTree)
  | call (name : String) (args : List OperatorTree)
  | cast (operand : OperatorTree) (type : String)
  | case (branches : List (OperatorTree × OperatorTree)) (otherwise : Option OperatorTree)
  | inSubquery (operand : OperatorTree) (query : List Token) (negated : Bool)
  | between (operand low high : OperatorTree) (negated : Bool)
  | overAll (function : OperatorTree)

/-- How tightly an operator binds. -/
def BinaryOp.precedence : BinaryOp → Nat
  | .and => 1
  | .eq | .lt | .gt | .lte | .gte => 2
  | .minus | .concat => 3
  | .mul | .div => 4

/-- What may follow an operand. -/
inductive Continuation where
  | operator (op : BinaryOp)
  | between
  | within
  | not

namespace Continuation

/-- How tightly it binds; `NOT` stands before `BETWEEN` or `IN`. -/
def precedence : Continuation → Nat
  | .operator op => op.precedence
  | .between | .within | .not => 2

/-- What a token continues an operand with. -/
def ofToken? : Token → Option Continuation
  | .and => some (.operator .and)
  | .eq => some (.operator .eq)
  | .lt => some (.operator .lt)
  | .gt => some (.operator .gt)
  | .lte => some (.operator .lte)
  | .gte => some (.operator .gte)
  | .minus => some (.operator .minus)
  | .concat => some (.operator .concat)
  | .mul => some (.operator .mul)
  | .div => some (.operator .div)
  | .between => some .between
  | .inKw => some .within
  | .not => some .not
  | _ => none

theorem ofToken?_token (op : BinaryOp) : ofToken? op.token = some (.operator op) := by
  cases op <;> rfl

end Continuation

/-! ## Readers -/

/-- Takes tokens from the front and leaves the others. -/
abbrev Reader := StateT (List Token) Option

namespace Reader

variable {α β : Type}

/-- The next token. -/
def next : Reader Token
  | [] => none
  | t :: ts => some (t, ts)

/-- A token that must come next. -/
def expect (t : Token) : Reader Unit
  | [] => none
  | t' :: ts => if t' = t then some ((), ts) else none

/-- Takes a token and goes on in one way if it comes next, and goes on in another way otherwise. -/
def upon (t : Token) (p q : Reader α) : Reader α
  | [] => q []
  | t' :: ts => if t' = t then p ts else q (t' :: ts)

/-- The tokens up to the parenthesis that closes as many levels. -/
def untilClosed (depth : Nat) : Reader (List Token)
  | [] => none
  | .rparen :: ts =>
    if depth = 0 then some ([], ts)
    else (untilClosed (depth - 1) ts).map fun (inner, rest) => (.rparen :: inner, rest)
  | .lparen :: ts =>
    (untilClosed (depth + 1) ts).map fun (inner, rest) => (.lparen :: inner, rest)
  | t :: ts => (untilClosed depth ts).map fun (inner, rest) => (t :: inner, rest)

/-- Items between commas, up to a closing parenthesis. -/
def items (item : Reader α) : Nat → Reader (List α)
  | 0 => failure
  | n + 1 => do
    let a ← item
    match ← next with
    | .comma => return a :: (← items item n)
    | .rparen => return [a]
    | _ => failure

/-- Items between commas, or none, up to a closing parenthesis. -/
def arguments (item : Reader α) (n : Nat) : Reader (List α)
  | [] => none
  | t :: ts => if t = .rparen then some ([], ts) else items item n (t :: ts)

/-- The branches of a `CASE` and what it is otherwise. -/
def branches (expr : Reader OperatorTree) :
    Nat → Reader (List (OperatorTree × OperatorTree) × Option OperatorTree)
  | 0 => failure
  | n + 1 => do
    match ← next with
    | .when =>
      let test ← expr
      expect .thenKw
      let value ← expr
      let (rest, otherwise) ← branches expr n
      return ((test, value) :: rest, otherwise)
    | .elseKw =>
      let otherwise ← expr
      expect .endKw
      return ([], some otherwise)
    | .endKw => return ([], none)
    | _ => failure

/-- A column or a star, after the name it starts with. -/
def named (name : String) : Reader OperatorTree :=
  upon .dot
    (do match ← next with
      | .ident column => return .column (some name) column
      | .star => return .star (some name)
      | _ => failure)
    (return .column none name)

section Levels

variable (expr : Nat → Reader OperatorTree)

/-- What needs no operator; `expr` reads an expression of a level. -/
def primary (n : Nat) : Reader OperatorTree := do
  match ← next with
  | .ident name => named name
  | .star => return .star none
  | .raw sql => return .raw sql
  | .litInt i => return .literal (.int i)
  | .litFloat x => return .literal (.float x)
  | .litString s => return .literal (.string s)
  | .litBool b => return .literal (.bool b)
  | .litNull => return .literal .null
  | .lparen =>
    let inner ← expr 0
    expect .rparen
    return inner
  | .functionName name =>
    expect .lparen
    let args ← arguments (expr 0) n
    return .call name args
  | .cast =>
    expect .lparen
    let operand ← expr 0
    expect .as
    match ← next with
    | .raw type =>
      expect .rparen
      return .cast operand type
    | _ => failure
  | .case =>
    let (bs, otherwise) ← branches (expr 0) n
    return .case bs otherwise
  | _ => failure

/-- An operand: a primary, which may be an aggregate over all rows. -/
def operand (n : Nat) : Reader OperatorTree := do
  let f ← primary expr n
  upon .overKw
    (do
      expect .lparen
      expect .rparen
      return .overAll f)
    (return f)

/-- The bounds of a `BETWEEN`. -/
def range (left : OperatorTree) (negated : Bool) : Reader OperatorTree := do
  let low ← expr 3
  expect .and
  let high ← expr 3
  return .between left low high negated

/-- The query of an `IN`. -/
def membership (left : OperatorTree) (negated : Bool) : Reader OperatorTree := do
  expect .lparen
  let query ← untilClosed 0
  return .inSubquery left query negated

/-- What an operand is continued to. -/
def suffix (left : OperatorTree) : Continuation → Reader OperatorTree
  | .operator op => do
    let right ← expr (op.precedence + 1)
    return .binary left op right
  | .between => range expr left false
  | .within => membership left false
  | .not => do
    match ← next with
    | .between => range expr left true
    | .inKw => membership left true
    | _ => failure

/-- Continues an operand by what binds at least as tightly as a level. -/
def continued (level : Nat) : Nat → OperatorTree → Reader OperatorTree
  | 0, _ => failure
  | n + 1, left => fun ts =>
    match ts with
    | [] => some (left, [])
    | t :: rest =>
      match Continuation.ofToken? t with
      | none => some (left, t :: rest)
      | some c =>
        if c.precedence < level then some (left, t :: rest)
        else (suffix expr left c >>= continued level n) rest

end Levels

/-- An expression of operators that bind at least as tightly as a level. -/
def expression : Nat → Nat → Reader OperatorTree
  | 0, _ => failure
  | n + 1, level => do
    let left ← operand (expression n) n
    continued (expression n) level n left

/-! ## More steps and more tokens -/

/-- Whatever one reader finds, another one finds too if more tokens follow; these must be of a
certain kind if the first reader was stopped by the end of its tokens. -/
def Extends (ok : List Token → Prop) (p q : Reader α) : Prop :=
  ∀ ⦃ts a r⦄, p ts = some (a, r) →
    ∀ rest, (r = [] → ok rest) → q (ts ++ rest) = some (a, r ++ rest)

/-- Any tokens may follow. -/
def Anything : List Token → Prop := fun _ => True

namespace Extends

variable {ok ok' : List Token → Prop} {p q : Reader α} {f g : α → Reader β}

theorem pure (a : α) : Extends ok (Pure.pure a) (Pure.pure a) := by
  intro ts b r h rest _
  cases h
  rfl

theorem failure : Extends ok Alternative.failure q := fun _ _ _ h => nomatch h

theorem next : Extends ok next next := by
  intro ts t r h rest _
  cases ts with
  | nil => exact nomatch h
  | cons t ts =>
    cases h
    rfl

theorem expect (t : Token) : Extends ok (expect t) (expect t) := by
  intro ts a r h rest _
  cases ts with
  | nil => exact nomatch h
  | cons t' ts =>
    by_cases ht : t' = t
    · rw [Reader.expect, if_pos ht] at h
      cases h
      rw [List.cons_append, Reader.expect, if_pos ht]
    · rw [Reader.expect, if_neg ht] at h
      exact nomatch h

/-- A reader is run after another one. If the end of the tokens is reached in between, nothing is
left in the end, and what follows must suit both. -/
theorem bind (hp : Extends ok' p q) (hf : ∀ a, Extends ok (f a) (g a))
    (hend : ∀ a b r, f a [] = some (b, r) → r = [] ∧ ∀ rest, ok rest → ok' rest) :
    Extends ok (p >>= f) (q >>= g) := by
  intro ts b r h rest hrest
  obtain ⟨⟨a, between⟩, ha, hb⟩ := Option.bind_eq_some_iff.1 h
  have hbetween : between = [] → ok' rest := by
    rintro rfl
    obtain ⟨hr, hok⟩ := hend a b r hb
    exact hok rest (hrest hr)
  refine Option.bind_eq_some_iff.2 ⟨(a, between ++ rest), hp ha rest hbetween, ?_⟩
  exact hf a hb rest hrest

/-- What is found by two readers, one after the other, is found before more tokens too. -/
theorem andThen (hp : Extends Anything p q) (hf : ∀ a, Extends ok (f a) (g a)) :
    Extends ok (p >>= f) (q >>= g) := by
  intro ts b r h rest hrest
  obtain ⟨⟨a, between⟩, ha, hb⟩ := Option.bind_eq_some_iff.1 h
  refine Option.bind_eq_some_iff.2 ⟨(a, between ++ rest), hp ha rest fun _ => trivial, ?_⟩
  exact hf a hb rest hrest

/-- The second reader needs a token, so the first one was not stopped by the end. -/
theorem followed (hp : Extends ok' p q) (hf : ∀ a, Extends ok (f a) (g a))
    (hend : ∀ a, f a [] = none) : Extends ok (p >>= f) (q >>= g) := by
  refine bind hp hf ?_
  intro a b r h
  rw [hend a] at h
  exact nomatch h

/-- A reader that looks for a token finds the same before more tokens, if these do not start with it
where the first reader was at its end. -/
theorem upon {t : Token} {p' q' : Reader α} (hp : Extends ok p p') (hq : Extends ok q q')
    (hend : ∀ a r, q [] = some (a, r) → r = [] ∧ ∀ rest, ok rest → rest.head? ≠ some t) :
    Extends ok (upon t p q) (upon t p' q') := by
  intro ts a r h rest hrest
  cases ts with
  | cons t' ts =>
    by_cases ht : t' = t
    · rw [Reader.upon, if_pos ht] at h
      rw [List.cons_append, Reader.upon, if_pos ht]
      exact hp h rest hrest
    · rw [Reader.upon, if_neg ht] at h
      rw [List.cons_append, Reader.upon, if_neg ht]
      exact hq h rest hrest
  | nil =>
    have hq' : q' ([] ++ rest) = some (a, r ++ rest) := hq h rest hrest
    obtain ⟨hr, hother⟩ := hend a r h
    -- what follows does not start with the token either
    cases rest with
    | nil => exact hq'
    | cons t' rest =>
      have ht : t' ≠ t := fun ht => hother _ (hrest hr) (by rw [ht]; rfl)
      rw [List.nil_append, Reader.upon, if_neg ht]
      exact hq'

theorem untilClosed (depth : Nat) : Extends ok (untilClosed depth) (untilClosed depth) := by
  intro ts inner r h rest hrest
  induction ts generalizing depth inner with
  | nil => exact nomatch h
  | cons t ts ih =>
    have hstep (d : Nat) (h : (Reader.untilClosed d ts).map (fun x => (t :: x.1, x.2)) =
        some (inner, r)) : (Reader.untilClosed d (ts ++ rest)).map (fun x => (t :: x.1, x.2)) =
          some (inner, r ++ rest) := by
      obtain ⟨⟨inner', r'⟩, h', heq⟩ := Option.map_eq_some_iff.1 h
      cases heq
      rw [ih d h']
      rfl
    -- only parentheses change the depth
    by_cases hclose : t = .rparen
    · subst hclose
      by_cases hdepth : depth = 0
      · rw [Reader.untilClosed, if_pos hdepth] at h
        cases h
        rw [List.cons_append, Reader.untilClosed, if_pos hdepth]
      · rw [Reader.untilClosed, if_neg hdepth] at h
        rw [List.cons_append, Reader.untilClosed, if_neg hdepth]
        exact hstep _ h
    · by_cases hopen : t = .lparen
      · subst hopen
        exact hstep _ h
      · rw [Reader.untilClosed] at h
        · rw [List.cons_append, Reader.untilClosed]
          · exact hstep _ h
          · exact hclose
          · exact hopen
        · exact hclose
        · exact hopen

/-- More steps find the same items. -/
theorem items {n m : Nat} (hnm : n ≤ m) (hp : Extends ok' p q) :
    Extends Anything (items p n) (items q m) := by
  induction n generalizing m with
  | zero => exact failure
  | succ n ih =>
    obtain ⟨m, rfl⟩ : ∃ k, m = k + 1 := ⟨m - 1, by omega⟩
    refine followed hp (fun a => andThen next fun t => ?_) fun a => rfl
    split
    · exact andThen (ih (by omega)) fun rest => pure (a :: rest)
    · exact pure [a]
    · exact failure

theorem arguments {n m : Nat} (hnm : n ≤ m) (hp : Extends ok' p q) :
    Extends Anything (arguments p n) (arguments q m) := by
  intro ts as r h rest hrest
  cases ts with
  | nil => exact nomatch h
  | cons t ts =>
    by_cases ht : t = .rparen
    · rw [Reader.arguments, if_pos ht] at h
      cases h
      rw [List.cons_append, Reader.arguments, if_pos ht]
    · rw [Reader.arguments, if_neg ht] at h
      rw [List.cons_append, Reader.arguments, if_neg ht]
      exact items hnm hp h rest hrest

/-- More steps find the same branches. -/
theorem branches {n m : Nat} (hnm : n ≤ m) {expr expr' : Reader OperatorTree}
    (h : Extends ok' expr expr') : Extends Anything (branches expr n) (branches expr' m) := by
  induction n generalizing m with
  | zero => exact failure
  | succ n ih =>
    obtain ⟨m, rfl⟩ : ∃ k, m = k + 1 := ⟨m - 1, by omega⟩
    refine andThen next fun t => ?_
    split
    · refine followed h (fun test => andThen (expect .thenKw) fun _ => ?_) fun _ => rfl
      -- the branches that follow need a token, if only the last one
      have hmore : Extends Anything (Reader.branches expr n) (Reader.branches expr' m) :=
        ih (by omega)
      have hend : Reader.branches expr n [] = none := by
        cases n <;> rfl
      refine followed h (fun value => andThen hmore fun x => pure _) fun value => ?_
      show (Reader.branches expr n []).bind _ = none
      rw [hend]
      rfl
    · exact followed h (fun value => andThen (expect .endKw) fun _ => pure _) fun _ => rfl
    · exact pure _
    · exact failure

end Extends

/-! ## Readers of expressions -/

/-- What follows a name does not qualify it. -/
def NameEnd (rest : List Token) : Prop := rest.head? ≠ some .dot

/-- What follows an operand is no part of it. -/
def OperandEnd (rest : List Token) : Prop := NameEnd rest ∧ rest.head? ≠ some .overKw

/-- What follows an expression is no part of it: it neither belongs to the last operand nor goes on
with what binds as tightly as the level. -/
def Closed (level : Nat) (rest : List Token) : Prop :=
  OperandEnd rest ∧ ∀ t, rest.head? = some t → ∀ c, Continuation.ofToken? t = some c →
    c.precedence < level

/-- What ends an expression ends those whose operators bind more tightly. -/
theorem Closed.mono {level level' : Nat} {rest : List Token} (h : Closed level rest)
    (hlevel : level ≤ level') : Closed level' rest := by
  refine ⟨h.1, fun t ht c hc => ?_⟩
  have hlt := h.2 t ht c hc
  omega

/-- Whether a token is no part of an expression of a level that it follows. -/
def closes (level : Nat) (t : Token) : Bool :=
  t != .dot && t != .overKw && (Continuation.ofToken? t).all fun c => c.precedence < level

theorem closed_nil (level : Nat) : Closed level [] := ⟨⟨nofun, nofun⟩, nofun⟩

theorem closed_cons {level : Nat} {t : Token} (h : closes level t = true) (ts : List Token) :
    Closed level (t :: ts) := by
  simp only [closes, Bool.and_eq_true, bne_iff_ne] at h
  obtain ⟨⟨hdot, hover⟩, hlevel⟩ := h
  refine ⟨⟨?_, ?_⟩, ?_⟩
  · rintro ⟨⟩
    exact hdot rfl
  · rintro ⟨⟩
    exact hover rfl
  · rintro t ⟨⟩ c hc
    rw [hc] at hlevel
    exact of_decide_eq_true hlevel

section Continued

variable {expr : Nat → Reader OperatorTree} {level : Nat} (n : Nat) {left : OperatorTree}
  {t : Token} {ts : List Token}

theorem continued_end {n : Nat} {found : OperatorTree} {r : List Token}
    (h : continued expr level n left [] = some (found, r)) : r = [] := by
  cases n with
  | zero => exact nomatch h
  | succ n =>
    cases h
    rfl

/-- A token that binds too weakly stops the reading. -/
theorem continued_stop
    (hstop : ∀ c, Continuation.ofToken? t = some c → c.precedence < level) :
    continued expr level (n + 1) left (t :: ts) = some (left, t :: ts) := by
  show (match Continuation.ofToken? t with
    | none => _
    | some c => _) = _
  cases hc : Continuation.ofToken? t with
  | none => rfl
  | some c => exact if_pos (hstop c hc)

/-- A token that binds tightly enough goes on with its suffix. -/
theorem continued_step {c : Continuation} (hc : Continuation.ofToken? t = some c)
    (hlevel : level ≤ c.precedence) : continued expr level (n + 1) left (t :: ts) =
      (suffix expr left c >>= continued expr level n) ts := by
  show (match Continuation.ofToken? t with
    | none => _
    | some c => _) = _
  rw [hc]
  exact if_neg (by omega)

end Continued

theorem named_extends (name : String) : Extends NameEnd (named name) (named name) := by
  refine .upon (.andThen .next fun t => ?_) (.pure _) ?_
  · split
    · exact .pure _
    · exact .pure _
    · exact .failure
  · intro a r h
    cases h
    exact ⟨rfl, fun rest hrest => hrest⟩

section Levels

variable {expr expr' : Nat → Reader OperatorTree} {n m : Nat}
  (h : ∀ level, Extends (Closed level) (expr level) (expr' level)) (hnm : n ≤ m)

include h

/-- A range is found before whatever ends its upper end. -/
theorem range_extends (left : OperatorTree) (negated : Bool) :
    Extends (Closed 3) (range expr left negated) (range expr' left negated) := by
  refine .followed (h 3) (fun low => .andThen (.expect _) fun _ => ?_) fun _ => rfl
  refine .bind (h 3) (fun high => .pure _) ?_
  intro high t r hr
  cases hr
  exact ⟨rfl, fun rest hrest => hrest⟩

/-- What continues an operand is found before whatever ends it. -/
theorem suffix_extends (left : OperatorTree) (c : Continuation) :
    Extends (Closed (c.precedence + 1)) (suffix expr left c) (suffix expr' left c) := by
  have hmember (negated : Bool) :
      Extends (Closed 3) (membership left negated) (membership left negated) :=
    .andThen (.expect _) fun _ => .andThen (.untilClosed 0) fun query => .pure _
  cases c with
  | operator op =>
    refine .bind (h _) (fun right => .pure _) ?_
    intro right t r hr
    cases hr
    exact ⟨rfl, fun rest hrest => hrest⟩
  | between => exact range_extends h left false
  | within => exact hmember false
  | not =>
    refine .andThen .next fun t => ?_
    split
    · exact range_extends h left true
    · exact hmember true
    · exact .failure

include hnm

theorem primary_extends : Extends NameEnd (primary expr n) (primary expr' m) := by
  refine .andThen .next fun t => ?_
  split
  · exact named_extends _
  · exact .pure _
  · exact .pure _
  · exact .pure _
  · exact .pure _
  · exact .pure _
  · exact .pure _
  · exact .pure _
  -- a group, a call, a cast and a case
  · exact .followed (h 0) (fun inner => .andThen (.expect _) fun _ => .pure _) fun _ => rfl
  · exact .andThen (.expect _) fun _ => .andThen (.arguments hnm (h 0)) fun args => .pure _
  · refine .andThen (.expect _) fun _ => ?_
    refine .followed (h 0) (fun inner => .andThen (.expect _) fun _ => .andThen .next fun t => ?_)
      fun _ => rfl
    split
    · exact .andThen (.expect _) fun _ => .pure _
    · exact .failure
  · exact .andThen (.branches hnm (h 0)) fun x => .pure _
  · exact .failure

theorem operand_extends : Extends OperandEnd (operand expr n) (operand expr' m) := by
  refine .bind (primary_extends h hnm) (fun f => ?_) ?_
  · refine .upon (.andThen (.expect _) fun _ => .andThen (.expect _) fun _ => .pure _) (.pure _) ?_
    intro t r hr
    cases hr
    exact ⟨rfl, fun rest hrest => hrest.2⟩
  · intro f t r hr
    cases hr
    exact ⟨rfl, fun rest hrest => hrest.1⟩

/-- Continuations are found before whatever ends an expression of their level. The induction is on
the steps. -/
theorem continued_extends (level : Nat) (left : OperatorTree) :
    Extends (Closed level) (continued expr level n left) (continued expr' level m left) := by
  induction n generalizing m left with
  | zero => exact .failure
  | succ n ih =>
    obtain ⟨m, rfl⟩ : ∃ k, m = k + 1 := ⟨m - 1, by omega⟩
    intro ts t r hr rest hrest
    cases ts with
    | nil =>
      cases hr
      have hclosed : Closed level rest := hrest rfl
      cases rest with
      | nil => rfl
      | cons t' rest => exact continued_stop m (hclosed.2 t' rfl)
    | cons t' ts =>
      by_cases hstop : ∀ c, Continuation.ofToken? t' = some c → c.precedence < level
      · rw [continued_stop n hstop] at hr
        cases hr
        exact continued_stop m hstop
      · -- what closes the whole also closes what was read after the operator
        simp only [Classical.not_forall, Nat.not_lt] at hstop
        obtain ⟨c, hc, hlevel⟩ := hstop
        rw [continued_step n hc hlevel] at hr
        rw [List.cons_append, continued_step m hc hlevel]
        refine Extends.bind (suffix_extends h left c) (ih (by omega)) ?_ hr rest hrest
        intro a b r hab
        exact ⟨continued_end hab, fun rest hclosed => hclosed.mono (by omega)⟩

end Levels

/-- An expression is read in the same way with more steps, and if tokens follow that close it. -/
theorem expression_extends {n m : Nat} (hnm : n ≤ m) (level : Nat) :
    Extends (Closed level) (expression n level) (expression m level) := by
  induction n generalizing m level with
  | zero => exact .failure
  | succ n ih =>
    obtain ⟨m, rfl⟩ : ∃ k, m = k + 1 := ⟨m - 1, by omega⟩
    have hinner (level : Nat) : Extends (Closed level) (expression n level) (expression m level) :=
      ih (by omega) level
    refine .bind (operand_extends hinner (by omega))
      (fun left => continued_extends hinner (by omega) level left) ?_
    intro left t r hend
    exact ⟨continued_end hend, fun rest hclosed => hclosed.1⟩

/-! ## What is read -/

/-- The tokens are read, with enough steps, as a primary. -/
def ReadsPrimary (ts : List Token) (t : OperatorTree) : Prop :=
  ∃ n, primary (expression n) n ts = some (t, [])

/-- The tokens are read, with enough steps, as an operand. -/
def ReadsOperand (ts : List Token) (t : OperatorTree) : Prop :=
  ∃ n, operand (expression n) n ts = some (t, [])

/-- The tokens are read, with enough steps, as an expression of a level. -/
def Reads (level : Nat) (ts : List Token) (t : OperatorTree) : Prop :=
  ∃ n, expression n level ts = some (t, [])

/-- The tokens are read, with enough steps, as what continues an operand. -/
def Continues (level : Nat) (left : OperatorTree) (ts : List Token) (t : OperatorTree) : Prop :=
  ∃ n, continued (expression n) level n left ts = some (t, [])

section Enough

variable {ts rest : List Token} {t : OperatorTree} {level : Nat}

/-- Enough steps for the tokens alone are enough before anything that does not qualify a name. -/
theorem ReadsPrimary.enough (h : ReadsPrimary ts t) : ∃ n, ∀ m, n ≤ m → ∀ rest, NameEnd rest →
    primary (expression m) m (ts ++ rest) = some (t, rest) := by
  obtain ⟨n, hn⟩ := h
  exact ⟨n, fun m hm rest hrest =>
    primary_extends (expression_extends hm) hm hn rest fun _ => hrest⟩

/-- Enough steps for the tokens alone are enough before anything that is no part of the operand. -/
theorem ReadsOperand.enough (h : ReadsOperand ts t) : ∃ n, ∀ m, n ≤ m → ∀ rest, OperandEnd rest →
    operand (expression m) m (ts ++ rest) = some (t, rest) := by
  obtain ⟨n, hn⟩ := h
  exact ⟨n, fun m hm rest hrest =>
    operand_extends (expression_extends hm) hm hn rest fun _ => hrest⟩

/-- Enough steps for the tokens alone are enough before anything that ends the expression. -/
theorem Reads.enough (h : Reads level ts t) : ∃ n, ∀ m, n ≤ m → ∀ rest, Closed level rest →
    expression m level (ts ++ rest) = some (t, rest) := by
  obtain ⟨n, hn⟩ := h
  exact ⟨n, fun m hm rest hrest => expression_extends hm level hn rest fun _ => hrest⟩

/-- Whatever is read with some steps is read with more. -/
theorem Continues.enough {left : OperatorTree} (h : Continues level left ts t) :
    ∃ n, ∀ m k, n ≤ m → n ≤ k → continued (expression m) level k left ts = some (t, []) := by
  obtain ⟨n, hn⟩ := h
  refine ⟨n, fun m k hm hk => ?_⟩
  have hmore := continued_extends (expression_extends hm) hk level left hn [] fun _ =>
    closed_nil level
  rwa [List.append_nil, List.append_nil] at hmore

/-- Tokens are read in one way only. -/
theorem Reads.unique {t' : OperatorTree} (h : Reads level ts t) (h' : Reads level ts t') :
    t = t' := by
  obtain ⟨n, hn⟩ := h.enough
  obtain ⟨m, hm⟩ := h'.enough
  have hmore := hn (n + m) (by omega) [] (closed_nil level)
  have hmore' := hm (n + m) (by omega) [] (closed_nil level)
  rw [hmore] at hmore'
  cases hmore'
  rfl

end Enough

section Rules

variable {ts ts' rest : List Token} {t t' left : OperatorTree} {level : Nat}

theorem ReadsPrimary.operand (h : ReadsPrimary ts t) : ReadsOperand ts t := by
  obtain ⟨n, hn⟩ := h
  exact ⟨n, Option.bind_eq_some_iff.2 ⟨(t, []), hn, rfl⟩⟩

/-- A primary over all rows is an operand. -/
theorem ReadsPrimary.over (h : ReadsPrimary ts t) :
    ReadsOperand (ts ++ [Token.overKw, .lparen, .rparen]) (.overAll t) := by
  obtain ⟨n, hn⟩ := h.enough
  have hprimary := hn n (by omega) [.overKw, .lparen, .rparen] (by nofun)
  exact ⟨n, Option.bind_eq_some_iff.2 ⟨_, hprimary, rfl⟩⟩

theorem Continues.nil : Continues level left [] left := ⟨1, rfl⟩

/-- An operand with what continues it is an expression. -/
theorem ReadsOperand.continued (h : ReadsOperand ts left) (hend : OperandEnd ts')
    (hrest : Continues level left ts' t) : Reads level (ts ++ ts') t := by
  obtain ⟨n, hn⟩ := h.enough
  obtain ⟨m, hm⟩ := hrest.enough
  refine ⟨n + m + 1, Option.bind_eq_some_iff.2 ⟨(left, ts'), ?_, ?_⟩⟩
  · exact hn (n + m) (by omega) ts' hend
  · exact hm (n + m) (n + m) (by omega) (by omega)

/-- An operand alone is an expression of every level. -/
theorem ReadsOperand.reads (h : ReadsOperand ts t) : Reads level ts t := by
  have hreads : Reads level (ts ++ []) t := h.continued (closed_nil 0).1 .nil
  rwa [List.append_nil] at hreads

/-- A continuation that binds tightly enough is taken. -/
theorem Continues.step {token : Token} {c : Continuation}
    (hc : Continuation.ofToken? token = some c) (hlevel : level ≤ c.precedence)
    (hsuffix : ∃ n, ∀ m, n ≤ m → suffix (expression m) left c ts = some (t', rest))
    (hrest : Continues level t' rest t) : Continues level left (token :: ts) t := by
  obtain ⟨n, hn⟩ := hsuffix
  obtain ⟨m, hm⟩ := hrest.enough
  refine ⟨n + m + 1, ?_⟩
  rw [continued_step (n + m) hc hlevel]
  refine Option.bind_eq_some_iff.2 ⟨(t', rest), hn _ (by omega), ?_⟩
  exact hm (n + m + 1) (n + m) (by omega) (by omega)

/-- An operator that binds tightly enough takes an expression of the next level on its right, and
what follows goes on from both. -/
theorem Continues.operator {op : BinaryOp} (hlevel : level ≤ op.precedence)
    (hright : Reads (op.precedence + 1) ts t') (hclosed : Closed (op.precedence + 1) rest)
    (hrest : Continues level (.binary left op t') rest t) :
    Continues level left (op.token :: (ts ++ rest)) t := by
  refine .step (Continuation.ofToken?_token op) hlevel ?_ hrest
  obtain ⟨n, hn⟩ := hright.enough
  exact ⟨n, fun m hm => Option.bind_eq_some_iff.2 ⟨_, hn m hm rest hclosed, rfl⟩⟩

/-- A range continues an operand at the levels of comparisons and below. -/
theorem Continues.between {low high : List Token} {lowTree highTree : OperatorTree}
    (hlevel : level ≤ 2) (hlow : Reads 3 low lowTree) (hhigh : Reads 3 high highTree) :
    Continues level left (.between :: (low ++ Token.and :: high))
      (.between left lowTree highTree false) := by
  refine .step rfl hlevel ?_ .nil
  obtain ⟨n, hn⟩ := hlow.enough
  obtain ⟨m, hm⟩ := hhigh.enough
  refine ⟨n + m, fun k hk => ?_⟩
  -- `AND` binds less tightly than the bounds, so it ends the lower one
  have hclosed : Closed 3 (.and :: high) := closed_cons rfl high
  have hhigh := hm k (by omega) [] (closed_nil 3)
  rw [List.append_nil] at hhigh
  refine Option.bind_eq_some_iff.2 ⟨_, hn k (by omega) _ hclosed, ?_⟩
  exact Option.bind_eq_some_iff.2 ⟨_, hhigh, rfl⟩

/-- A query without parentheses ends at the first closing one. -/
theorem untilClosed_append {query : List Token}
    (hquery : ∀ t ∈ query, t ≠ .lparen ∧ t ≠ .rparen) (rest : List Token) :
    untilClosed 0 (query ++ Token.rparen :: rest) = some (query, rest) := by
  induction query with
  | nil => rfl
  | cons t query ih =>
    obtain ⟨ht, hrest⟩ := List.forall_mem_cons.1 hquery
    rw [List.cons_append, untilClosed, ih hrest]
    · rfl
    · exact ht.2
    · exact ht.1

/-- A test for a subquery continues an operand at the levels of comparisons and below. -/
theorem Continues.within {query : List Token} (hlevel : level ≤ 2)
    (hquery : ∀ t ∈ query, t ≠ .lparen ∧ t ≠ .rparen) :
    Continues level left (.inKw :: .lparen :: (query ++ [Token.rparen]))
      (.inSubquery left query false) := by
  refine .step rfl hlevel ?_ .nil
  refine ⟨0, fun k _ => ?_⟩
  exact Option.bind_eq_some_iff.2 ⟨_, untilClosed_append hquery [], rfl⟩

/-! ## Primaries -/

/-- Parentheses make a primary of any expression, and leave no trace in its tree. -/
theorem ReadsPrimary.paren (h : Reads 0 ts t) :
    ReadsPrimary (.lparen :: (ts ++ [Token.rparen])) t := by
  obtain ⟨n, hn⟩ := h.enough
  have hinner := hn n (by omega) [.rparen] (closed_cons rfl [])
  exact ⟨n, Option.bind_eq_some_iff.2 ⟨_, hinner, rfl⟩⟩

theorem ReadsPrimary.cast {type : String} (h : Reads 0 ts t) :
    ReadsPrimary (.cast :: .lparen :: (ts ++ [Token.as, .raw type, .rparen])) (.cast t type) := by
  obtain ⟨n, hn⟩ := h.enough
  have hinner := hn n (by omega) [.as, .raw type, .rparen] (closed_cons rfl _)
  exact ⟨n, Option.bind_eq_some_iff.2 ⟨_, hinner, rfl⟩⟩

/-- An expression has a first token, and it is no closing parenthesis. -/
theorem Reads.exists_cons (h : Reads level ts t) :
    ∃ start others, ts = start :: others ∧ start ≠ .rparen := by
  obtain ⟨n, hn⟩ := h
  cases n with
  | zero => exact nomatch hn
  | succ n =>
    cases ts with
    | nil => exact nomatch hn
    | cons start others =>
      refine ⟨start, others, rfl, ?_⟩
      rintro rfl
      exact nomatch hn

/-- Expressions with commas between them are read as a list, up to the closing parenthesis. -/
theorem items_separated {tss : List (List Token)} {trees : List OperatorTree}
    (h : List.Forall₂ (Reads 0) tss trees) (hne : tss ≠ []) :
    ∃ n, ∀ m k, n ≤ m → n ≤ k → ∀ rest,
      items (expression m 0) k (separated [.comma] tss ++ Token.rparen :: rest) =
        some (trees, rest) := by
  induction h with
  | nil => exact absurd rfl hne
  | @cons ts t tss trees hfirst hothers ih =>
    obtain ⟨n, hn⟩ := hfirst.enough
    -- whether a comma follows depends on there being a next item
    cases hothers with
    | nil =>
      refine ⟨n + 1, fun m k hm hk rest => ?_⟩
      obtain ⟨k, rfl⟩ : ∃ j, k = j + 1 := ⟨k - 1, by omega⟩
      have hitem := hn m (by omega) (.rparen :: rest) (closed_cons rfl rest)
      exact Option.bind_eq_some_iff.2 ⟨_, hitem, rfl⟩
    | @cons ts' t' tss trees hnext hothers =>
      obtain ⟨n', hn'⟩ := ih (by simp)
      refine ⟨n + n' + 1, fun m k hm hk rest => ?_⟩
      obtain ⟨k, rfl⟩ : ∃ j, k = j + 1 := ⟨k - 1, by omega⟩
      have hmore := hn' m k (by omega) (by omega) rest
      have hitem := hn m (by omega)
        (.comma :: (separated [.comma] (ts' :: tss) ++ .rparen :: rest)) (closed_cons rfl _)
      have hsplit : separated [.comma] (ts :: ts' :: tss) ++ .rparen :: rest =
          ts ++ .comma :: (separated [.comma] (ts' :: tss) ++ .rparen :: rest) := by
        simp [separated]
      rw [hsplit]
      refine Option.bind_eq_some_iff.2 ⟨_, hitem, ?_⟩
      exact Option.bind_eq_some_iff.2 ⟨_, hmore, rfl⟩

/-- A call with any arguments is a primary. -/
theorem ReadsPrimary.call {name : String} {tss : List (List Token)} {trees : List OperatorTree}
    (h : List.Forall₂ (Reads 0) tss trees) :
    ReadsPrimary (.functionName name :: .lparen :: (separated [.comma] tss ++ [.rparen]))
      (.call name trees) := by
  cases hne : tss with
  | nil =>
    subst hne
    cases h
    exact ⟨0, rfl⟩
  | cons ts tss' =>
    obtain ⟨n, hn⟩ := items_separated h (by simp [hne])
    have hitems := hn n n (by omega) (by omega) []
    rw [hne] at h hitems
    -- the first argument tells the list from an empty one
    obtain ⟨more, hmore⟩ : ∃ more, separated [.comma] (ts :: tss') = ts ++ more := by
      cases tss' with
      | nil => exact ⟨[], (List.append_nil ts).symm⟩
      | cons ts' tss => exact ⟨_, List.append_assoc _ _ _⟩
    have harguments : arguments (expression n 0) n (separated [.comma] (ts :: tss') ++ [.rparen]) =
        some (trees, []) := by
      cases h with
      | cons hfirst _ =>
        obtain ⟨start, others, rfl, hstart⟩ := hfirst.exists_cons
        rw [hmore] at hitems ⊢
        exact (if_neg hstart).trans hitems
    exact ⟨n, Option.bind_eq_some_iff.2 ⟨_, harguments, rfl⟩⟩

/-- The tokens of a `CASE` after its first word. -/
def caseTokens (otherwise : Option (List Token)) : List (List Token × List Token) → List Token
  | [] => otherwise.elim [.endKw] fun ts => .elseKw :: (ts ++ [.endKw])
  | (test, value) :: bs => .when :: (test ++ .thenKw :: (value ++ caseTokens otherwise bs))

/-- What follows a value of a `CASE` ends it. -/
theorem closed_caseTokens (otherwise : Option (List Token)) (bs : List (List Token × List Token)) :
    Closed 0 (caseTokens otherwise bs) := by
  cases bs with
  | nil => cases otherwise with
    | none => exact closed_cons rfl _
    | some ts => exact closed_cons rfl _
  | cons b bs => exact closed_cons rfl _

/-- The branches of a `CASE` are read one after the other, up to its end. -/
theorem branches_caseTokens {otherwise : Option (List Token)} {last : Option OperatorTree}
    (hlast : Option.Rel (Reads 0) otherwise last) {bs : List (List Token × List Token)}
    {trees : List (OperatorTree × OperatorTree)}
    (h : List.Forall₂ (fun b t => Reads 0 b.1 t.1 ∧ Reads 0 b.2 t.2) bs trees) :
    ∃ n, ∀ m k, n ≤ m → n ≤ k →
      branches (expression m 0) k (caseTokens otherwise bs) = some ((trees, last), []) := by
  induction h with
  | nil =>
    cases hlast with
    | none =>
      refine ⟨1, fun m k _ hk => ?_⟩
      obtain ⟨k, rfl⟩ : ∃ j, k = j + 1 := ⟨k - 1, by omega⟩
      rfl
    | some hreads =>
      obtain ⟨n, hn⟩ := hreads.enough
      refine ⟨n + 1, fun m k hm hk => ?_⟩
      obtain ⟨k, rfl⟩ : ∃ j, k = j + 1 := ⟨k - 1, by omega⟩
      have hvalue := hn m (by omega) [.endKw] (closed_cons rfl [])
      exact Option.bind_eq_some_iff.2 ⟨_, hvalue, rfl⟩
  | @cons b t bs trees hb hbs ih =>
    obtain ⟨n, hn⟩ := hb.1.enough
    obtain ⟨n', hn'⟩ := hb.2.enough
    obtain ⟨n'', hn''⟩ := ih
    refine ⟨n + n' + n'' + 1, fun m k hm hk => ?_⟩
    obtain ⟨k, rfl⟩ : ∃ j, k = j + 1 := ⟨k - 1, by omega⟩
    -- the keyword after each part ends it
    have htest := hn m (by omega) (.thenKw :: (b.2 ++ caseTokens otherwise bs)) (closed_cons rfl _)
    have hvalue := hn' m (by omega) (caseTokens otherwise bs) (closed_caseTokens otherwise bs)
    refine Option.bind_eq_some_iff.2 ⟨_, htest, ?_⟩
    refine Option.bind_eq_some_iff.2 ⟨_, hvalue, ?_⟩
    exact Option.bind_eq_some_iff.2 ⟨_, hn'' m k (by omega) (by omega), rfl⟩

/-- A `CASE` with any branches is a primary. -/
theorem ReadsPrimary.case {otherwise : Option (List Token)} {last : Option OperatorTree}
    (hlast : Option.Rel (Reads 0) otherwise last) {bs : List (List Token × List Token)}
    {trees : List (OperatorTree × OperatorTree)}
    (h : List.Forall₂ (fun b t => Reads 0 b.1 t.1 ∧ Reads 0 b.2 t.2) bs trees) :
    ReadsPrimary (.case :: caseTokens otherwise bs) (.case trees last) := by
  obtain ⟨n, hn⟩ := branches_caseTokens hlast h
  exact ⟨n, Option.bind_eq_some_iff.2 ⟨_, hn n n (by omega) (by omega), rfl⟩⟩

end Rules

end Reader

end DatasetSql.Emit
