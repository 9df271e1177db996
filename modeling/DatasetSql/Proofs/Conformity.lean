import DatasetSql.Proofs.PageText
import DatasetSql.Proofs.References

/-!
# What a dialect lacks is not written

A dialect may have no `LIMIT`, no operator for concatenation, or an `OFFSET` only after an `ORDER BY`.
Queries stand inside queries, in what is read from and in conditions, and each of them may have a page.
What is written of a query conforms to the dialect at every depth: the tokens that are missing from it
never occur, and where an offset needs an order, each of them stands directly behind the order of its
own query, which is one that says nothing only if the query is not sorted.
-/

namespace DatasetSql.Emit

/-! ## Queries inside queries -/

mutual

/-- The queries inside an expression. -/
def Expr.queries : Expr → List Query
  | .column _ _ | .literal _ | .star _ | .raw _ => []
  | .binary left _ right => left.queries ++ right.queries
  | .function _ args => listQueries args
  | .cast operand _ => operand.queries
  | .case branches otherwise => branchQueries branches ++ otherwiseQueries otherwise
  | .inSubquery operand query _ => operand.queries ++ query.queries
  | .between operand low high _ => operand.queries ++ low.queries ++ high.queries
  | .paren inner => inner.queries
  | .overAll function => function.queries

/-- The queries inside expressions. -/
def listQueries : List Expr → List Query
  | [] => []
  | e :: es => e.queries ++ listQueries es

/-- The queries inside the branches of a `CASE`. -/
def branchQueries : List (Expr × Expr) → List Query
  | [] => []
  | (test, value) :: bs => test.queries ++ value.queries ++ branchQueries bs

/-- The queries inside the last branch of a `CASE`. -/
def otherwiseQueries : Option Expr → List Query
  | none => []
  | some e => e.queries

/-- The queries inside a select list. -/
def selectQueries : List (Expr × Option String) → List Query
  | [] => []
  | (e, _) :: items => e.queries ++ selectQueries items

/-- The queries inside joins. -/
def joinQueries : List (TableRef × Expr) → List Query
  | [] => []
  | (_, condition) :: js => condition.queries ++ joinQueries js

/-- The queries inside sort keys. -/
def sortQueries : List (Expr × Option SortDirection) → List Query
  | [] => []
  | (e, _) :: keys => e.queries ++ sortQueries keys

/-- The queries inside what a query reads from. -/
def sourceQueries : Option TableExpr → List Query
  | none => []
  | some t => t.queries

/-- A query and the queries inside it, at any depth. -/
def Query.queries : Query → List Query
  | .mk select distinct source joins groupBy orderBy page =>
    .mk select distinct source joins groupBy orderBy page ::
      (selectQueries select ++ sourceQueries source ++ joinQueries joins ++ listQueries groupBy ++
        sortQueries orderBy)

/-- The queries inside a table expression. -/
def TableExpr.queries : TableExpr → List Query
  | .table _ => []
  | .call _ args _ => listQueries args
  | .subquery query _ => query.queries

end

/-! ## Orders and offsets -/

namespace Query

/-- A query without its order and its page. -/
def bare : Query → Query
  | .mk select distinct source joins groupBy _ _ => .mk select distinct source joins groupBy [] none

/-- The order that a query has before an offset: its own, or else one that says nothing. -/
def offsetOrder (d : Dialect) (q : Query) : List Token :=
  if q.sortKeys.isEmpty then placeholderOrder
  else [Token.newline, .orderBy, .space] ++ separated commaSpace (sortTokens d q.sortKeys)

/-- A query with a page has an offset, and directly before it an order, which comes after everything
else that it has. -/
structure WritesOffset (d : Dialect) (q : Query) (before after : List Token) : Prop where
  paged : q.page.isSome = true
  ordered : before = q.bare.tokens d ++ q.offsetOrder d ++ [Token.newline]
  tokens : q.tokens d = before ++ Token.offset :: after

end Query

/-- A sequence that does not start like a query, with or without a parenthesis. -/
def OpensNoQuery (ts : List Token) : Prop :=
  ∃ t rest, ts = t :: rest ∧ t ≠ .select ∧ (t = .lparen → rest.head? ≠ some .select)

/-- What opens no query opens none before anything that does not start with `SELECT`. -/
theorem OpensNoQuery.append {ts us : List Token} (h : OpensNoQuery ts)
    (hus : us.head? ≠ some .select) : OpensNoQuery (ts ++ us) := by
  obtain ⟨t, rest, rfl, ht, hrest⟩ := h
  refine ⟨t, rest ++ us, rfl, ht, fun hparen => ?_⟩
  cases rest with
  | nil => exact hus
  | cons t' rest => exact hrest hparen

theorem OpensNoQuery.head?_ne {ts : List Token} (h : OpensNoQuery ts) : ts.head? ≠ some .select := by
  obtain ⟨t, rest, rfl, ht, -⟩ := h
  exact fun heq => ht (Option.some.inj heq)

/-- No expression starts a query outside of parentheses. -/
theorem Expr.opensNoQuery (d : Dialect) (e : Expr) : OpensNoQuery (e.tokens d) := by
  cases e with
  | column table name => cases table <;> exact ⟨_, _, rfl, nofun, nofun⟩
  | star table => cases table <;> exact ⟨_, _, rfl, nofun, nofun⟩
  | raw sql => exact ⟨_, _, rfl, nofun, nofun⟩
  | literal l => cases l <;> exact ⟨_, _, rfl, nofun, nofun⟩
  | binary left op right =>
    rw [Expr.tokens]
    split_ifs
    · exact ⟨_, _, rfl, nofun, nofun⟩
    -- an operand in front decides; where nothing is in front a token of its own does
    · exact ((left.opensNoQuery d).append (by simp)).append (right.opensNoQuery d).head?_ne
  | function name args => exact ⟨_, _, rfl, nofun, nofun⟩
  | cast operand type => exact ⟨_, _, rfl, nofun, nofun⟩
  | case branches otherwise => exact ⟨_, _, rfl, nofun, nofun⟩
  | inSubquery operand query negated =>
    rw [Expr.tokens]
    simp only [List.append_assoc]
    exact (operand.opensNoQuery d).append (by cases negated <;> simp)
  | between operand low high negated =>
    rw [Expr.tokens]
    simp only [List.append_assoc]
    exact (operand.opensNoQuery d).append (by cases negated <;> simp)
  | paren inner =>
    refine ⟨_, _, rfl, nofun, fun _ => ?_⟩
    exact ((inner.opensNoQuery d).append (by simp)).head?_ne
  | overAll function => exact (function.opensNoQuery d).append (by simp)

/-- The sort keys of an order do not start with a query. -/
theorem opensNoQuery_sortKeys (d : Dialect) {keys : List (Expr × Option SortDirection)}
    (h : keys ≠ []) : OpensNoQuery (separated commaSpace (sortTokens d keys)) := by
  match keys with
  | [] => exact absurd rfl h
  | (e, dir) :: keys =>
    have hkey : OpensNoQuery (e.tokens d ++ dir.elim [] fun dir => [.space, dir.token]) :=
      (e.opensNoQuery d).append (by cases dir <;> simp)
    match keys with
    | [] => exact hkey
    | (_, _) :: _ =>
      show OpensNoQuery (_ ++ commaSpace ++ _)
      rw [List.append_assoc]
      exact hkey.append (by simp [commaSpace])

/-- The order that says nothing is written exactly for queries that are not sorted. -/
theorem Query.offsetOrder_eq_placeholder_iff (d : Dialect) (q : Query) :
    q.offsetOrder d = placeholderOrder ↔ q.sortKeys = [] := by
  rw [offsetOrder]
  split_ifs with hempty
  · exact iff_of_true rfl (List.isEmpty_iff.1 hempty)
  · have hkeys : q.sortKeys ≠ [] := fun heq => hempty (List.isEmpty_iff.2 heq)
    refine iff_of_false (fun h => ?_) hkeys
    obtain ⟨t, rest, htokens, -, hrest⟩ := opensNoQuery_sortKeys d hkeys
    rw [htokens] at h
    -- both begin with `ORDER BY` and a blank, and then the placeholder opens a query
    have hparen : t :: rest = [.lparen, .select, .space, .null, .rparen] :=
      List.append_cancel_left (show [Token.newline, .orderBy, .space] ++ t :: rest = _ from h)
    obtain ⟨rfl, rfl⟩ := List.cons.inj hparen
    exact hrest rfl rfl

/-! ## What conforms -/

/-- The tokens that a dialect may lack or restrict. -/
def Token.isRestricted : Token → Bool
  | .limit | .concat | .offset => true
  | _ => false

/-- Whether none of some tokens is restricted. -/
def isFree (ts : List Token) : Bool := ts.all (!·.isRestricted)

/-- What is written of some queries, with other tokens around them, conforms to a dialect. -/
structure Conforms (d : Dialect) (qs : List Query) (ts : List Token) : Prop where
  limit : d.acceptsLimit = false → .limit ∉ ts
  concat : d.hasConcatOperator = false → .concat ∉ ts
  written : ∀ q ∈ qs, q.tokens d <:+: ts
  offsets : d.orderedOffset = true → ∀ before after, ts = before ++ Token.offset :: after →
    ∃ q ∈ qs, ∃ outer own rest outer', q.WritesOffset d own rest ∧
      before = outer ++ own ∧ after = rest ++ outer'

/-- Sequences that conform, with the queries of all of them. -/
inductive AllConform (d : Dialect) : List Query → List (List Token) → Prop
  | nil : AllConform d [] []
  | cons {qs qs' : List Query} {ts : List Token} {tss : List (List Token)} (h : Conforms d qs ts)
      (hs : AllConform d qs' tss) : AllConform d (qs ++ qs') (ts :: tss)

section

variable {d : Dialect} {qs qs' : List Query} {ts us : List Token}

/-- Tokens that no dialect restricts conform to all of them. -/
theorem Conforms.of_free (h : isFree ts = true) : Conforms d [] ts := by
  have hfree (t : Token) (ht : t.isRestricted = true) : t ∉ ts := by
    intro hmem
    have hnot := List.all_eq_true.1 h t hmem
    rw [ht] at hnot
    exact Bool.noConfusion hnot
  refine ⟨fun _ => hfree _ rfl, fun _ => hfree _ rfl, nofun, fun _ before after heq => ?_⟩
  refine absurd ?_ (hfree .offset rfl)
  rw [heq]
  exact List.mem_append_right before List.mem_cons_self

/-- What stands in two sequences stands in the first or in the second one. -/
theorem split_of_append {before after : List Token} {t : Token}
    (h : ts ++ us = before ++ t :: after) :
    (∃ mid, ts = before ++ t :: mid ∧ after = mid ++ us) ∨
      ∃ mid, us = mid ++ t :: after ∧ before = ts ++ mid := by
  rcases List.append_eq_append_iff.1 h with ⟨mid, hbefore, hus⟩ | ⟨mid, hts, hmid⟩
  · exact .inr ⟨mid, hus, hbefore⟩
  · cases mid with
    | nil => exact .inr ⟨[], hmid.symm, by rw [hts, List.append_nil, List.append_nil]⟩
    | cons t' mid =>
      obtain ⟨rfl, hafter⟩ := List.cons.inj hmid
      exact .inl ⟨mid, hts, hafter⟩

/-- What conforms does so behind anything else that conforms. -/
theorem Conforms.append (h : Conforms d qs ts) (h' : Conforms d qs' us) :
    Conforms d (qs ++ qs') (ts ++ us) := by
  refine ⟨fun hd => ?_, fun hd => ?_, fun q hq => ?_, fun hd before after heq => ?_⟩
  · exact List.not_mem_append (h.limit hd) (h'.limit hd)
  · exact List.not_mem_append (h.concat hd) (h'.concat hd)
  · rcases List.mem_append.1 hq with hq | hq
    · exact (h.written q hq).trans List.infix_append_left
    · exact (h'.written q hq).trans List.infix_append_right
  · rcases split_of_append heq with ⟨mid, hts, rfl⟩ | ⟨mid, hus, rfl⟩
    · obtain ⟨q, hq, outer, own, rest, outer', hwrites, rfl, rfl⟩ := h.offsets hd before mid hts
      exact ⟨q, List.mem_append_left qs' hq, outer, own, rest, outer' ++ us, hwrites, rfl,
        List.append_assoc ..⟩
    · obtain ⟨q, hq, outer, own, rest, outer', hwrites, rfl, rfl⟩ := h'.offsets hd mid after hus
      exact ⟨q, List.mem_append_right qs hq, ts ++ outer, own, rest, outer', hwrites,
        (List.append_assoc ..).symm, rfl⟩

theorem Conforms.append_free (h : Conforms d qs ts) (hus : isFree us = true) :
    Conforms d qs (ts ++ us) := by
  have happend := h.append (.of_free hus)
  rwa [List.append_nil] at happend

theorem Conforms.free_append (hts : isFree ts = true) (h : Conforms d qs us) :
    Conforms d qs (ts ++ us) :=
  (Conforms.of_free hts).append h

/-- A list conforms if its items do and the separator is free. -/
theorem AllConform.separated {sep : List Token} (hsep : isFree sep = true)
    {tss : List (List Token)} (h : AllConform d qs tss) :
    Conforms d qs (separated sep tss) := by
  induction h with
  | nil => exact .of_free rfl
  | cons h hs ih =>
    cases hs with
    | nil => rwa [List.append_nil]
    | cons h' hs => exact (h.append_free hsep).append ih

end

/-- A dialect has a `LIMIT` exactly if its page windows are spelled with it. -/
theorem acceptsLimit_iff {d : Dialect} : d.acceptsLimit = true ↔ d.paging = .limit := by
  cases d <;> decide

/-- An offset needs an order exactly where page windows always have an offset. -/
theorem orderedOffset_iff {d : Dialect} :
    d.orderedOffset = true ↔ d.paging = .offsetFetch := by
  cases d <;> decide

/-- The page window of a dialect has a `LIMIT` exactly if the dialect does and there is a limit. -/
theorem limit_mem_pageClause_iff {d : Dialect} {limit offset : Option Nat} :
    .limit ∈ pageClause d limit offset ↔ d.acceptsLimit = true ∧ limit.isSome = true := by
  rw [acceptsLimit_iff, pageClause]
  cases d.paging with
  | limit => cases limit <;> cases offset <;> simp [limitClause, countToken]
  | offsetFetch => cases limit <;> simp [offsetRows, fetchRows, countToken]
  | fetchFirst => cases limit <;> cases offset <;> simp [offsetRows, fetchRows, countToken]

/-- What a dialect writes of a page conforms to it, but for an offset that needs an order. Such a page
begins with the offset and has no other one. -/
theorem pageClause_conforms (d : Dialect) (limit offset : Option Nat) :
    (d.acceptsLimit = false → .limit ∉ pageClause d limit offset) ∧
    .concat ∉ pageClause d limit offset ∧
    (d.orderedOffset = true →
      ∃ rest, pageClause d limit offset = .offset :: rest ∧ .offset ∉ rest) := by
  refine ⟨fun hlimit hmem => ?_, ?_, fun hordered => ?_⟩
  · rw [(limit_mem_pageClause_iff.1 hmem).1] at hlimit
    exact Bool.noConfusion hlimit
  · unfold pageClause
    cases d.paging with
    | limit => cases limit <;> cases offset <;> simp [limitClause, countToken]
    | offsetFetch => cases limit <;> simp [offsetRows, fetchRows, countToken]
    | fetchFirst => cases limit <;> cases offset <;> simp [offsetRows, fetchRows, countToken]
  · rw [pageClause, orderedOffset_iff.1 hordered]
    cases limit <;> simp [offsetRows, fetchRows, countToken]

/-- A query without a page conforms if what is written of it conforms with the queries inside. -/
theorem Conforms.own {d : Dialect} {q : Query} {qs : List Query} (h : Conforms d qs (q.tokens d)) :
    Conforms d (q :: qs) (q.tokens d) := by
  refine ⟨h.limit, h.concat, ?_, fun hd before after heq => ?_⟩
  · exact List.forall_mem_cons.2 ⟨List.infix_rfl, h.written⟩
  · obtain ⟨s, hs, hwrites⟩ := h.offsets hd before after heq
    exact ⟨s, List.mem_cons_of_mem q hs, hwrites⟩

/-- Where an offset needs an order, a query with a page ends with an order and the page. -/
theorem Query.tokens_of_page {d : Dialect} (hd : d.orderedOffset = true) {q : Query}
    {limit offset : Option Nat} (hpage : q.page = some (limit, offset)) :
    q.tokens d = q.bare.tokens d ++ q.offsetOrder d ++
      ([Token.newline] ++ pageClause d limit offset) := by
  obtain ⟨select, distinct, source, joins, groupBy, orderBy, page⟩ := q
  obtain rfl : page = some (limit, offset) := hpage
  simp only [bare, offsetOrder, sortKeys, Query.tokens, hd]
  cases orderBy <;> simp

/-- A query with a page window writes its offset in any dialect whose offset needs an order, and an
order before it. -/
theorem Query.exists_writesOffset {d : Dialect} (hd : d.orderedOffset = true) {q : Query}
    (hpage : q.page.isSome = true) : ∃ before after, q.WritesOffset d before after := by
  obtain ⟨⟨limit, offset⟩, hwindow⟩ := Option.isSome_iff_exists.1 hpage
  obtain ⟨rest, hrest, -⟩ := (pageClause_conforms d limit offset).2.2 hd
  refine ⟨_, rest, hpage, rfl, ?_⟩
  rw [tokens_of_page hd hwindow, hrest]
  exact (List.append_assoc ..).symm

/-- A query with a page conforms if what stands in front of its page does. -/
theorem Conforms.own_page {d : Dialect} {q : Query} {qs : List Query} {front : List Token}
    {limit offset : Option Nat} (h : Conforms d qs front) (hpage : q.page = some (limit, offset))
    (htokens : q.tokens d = front ++ ([Token.newline] ++ pageClause d limit offset)) :
    Conforms d (q :: qs) (q.tokens d) := by
  obtain ⟨hlimit, hconcat, hoffset⟩ := pageClause_conforms d limit offset
  refine ⟨fun hd => ?_, fun hd => ?_, ?_, fun hd before after heq => ?_⟩
  · rw [htokens]
    exact List.not_mem_append (h.limit hd) (List.not_mem_append (by simp) (hlimit hd))
  · rw [htokens]
    exact List.not_mem_append (h.concat hd) (List.not_mem_append (by simp) hconcat)
  · refine List.forall_mem_cons.2 ⟨List.infix_rfl, fun s hs => ?_⟩
    rw [htokens]
    exact (h.written s hs).trans List.infix_append_left
  · obtain ⟨rest, hrest, hnone⟩ := hoffset hd
    have hfront : front = q.bare.tokens d ++ q.offsetOrder d :=
      List.append_cancel_right (htokens.symm.trans (Query.tokens_of_page hd hpage))
    rw [hrest] at htokens
    rw [htokens] at heq
    rcases split_of_append heq with ⟨mid, hinner, rfl⟩ | ⟨mid, hown, rfl⟩
    · obtain ⟨s, hs, outer, own, rest', outer', hwrites, rfl, rfl⟩ := h.offsets hd before mid hinner
      exact ⟨s, List.mem_cons_of_mem q hs, outer, own, rest', _, hwrites, rfl,
        List.append_assoc ..⟩
    · -- the page has no other offset than the one that it begins with
      obtain ⟨rfl, -, rfl⟩ := (List.append_cons_inj_of_notMem (by simp) hnone).1 hown
      have hwrites : q.WritesOffset d (front ++ [Token.newline]) rest := by
        refine ⟨?_, by rw [hfront], by rw [htokens, List.append_assoc]⟩
        rw [hpage]
        rfl
      exact ⟨q, List.mem_cons_self, [], _, _, [], hwrites, rfl, (List.append_nil _).symm⟩

/-- An operator is written only where the dialect has it. -/
theorem conforms_op {d : Dialect} {op : BinaryOp}
    (h : ¬ (op = .concat ∧ d.hasConcatOperator = false)) :
    Conforms d [] [.space, op.token, .space] := by
  by_cases hop : op = .concat
  · subst hop
    have hoffset : Token.offset ∉ [.space, BinaryOp.concat.token, .space] := by decide
    refine ⟨fun _ => by decide, fun hd => absurd ⟨rfl, hd⟩ h, nofun, fun _ before after heq => ?_⟩
    rw [heq] at hoffset
    exact absurd (List.mem_append_right before List.mem_cons_self) hoffset
  · refine .of_free ?_
    cases op <;> first | rfl | exact absurd rfl hop

/-! ## Expressions and queries -/

section

variable (d : Dialect)

-- The fixed words of each clause are free, and only operators and pages are not.
mutual

/-- Every expression conforms. Each case joins what the parts give by free tokens; the operators are
the only other tokens. -/
theorem Expr.conforms (e : Expr) : Conforms d e.queries (e.tokens d) := by
  cases e with
  | column table name => cases table <;> exact .of_free rfl
  | star table => cases table <;> exact .of_free rfl
  | raw sql => exact .of_free rfl
  | literal l => cases l <;> exact .of_free rfl
  | binary left op right =>
    rw [Expr.tokens, Expr.queries]
    have hleft := left.conforms
    have hright := right.conforms
    split_ifs with hop
    -- where there is no operator a function is called; the operator itself conforms elsewhere
    · have hfirst : Conforms d left.queries
          ([.functionName "CONCAT", .lparen] ++ left.tokens d ++ commaSpace) :=
        (hleft.free_append rfl).append_free rfl
      exact (hfirst.append hright).append_free rfl
    · have hoperator := conforms_op hop
      have hboth := (hleft.append hoperator).append hright
      rwa [List.append_nil] at hboth
  | function name args =>
    have hargs : Conforms d (listQueries args) (separated commaSpace (exprTokens d args)) :=
      (conforms_exprTokens args).separated rfl
    exact (hargs.free_append rfl).append_free rfl
  | cast operand type => exact (operand.conforms.free_append rfl).append_free rfl
  | case branches otherwise =>
    have hbranches : Conforms d (branchQueries branches) ([.case] ++ branchTokens d branches) :=
      (conforms_branchTokens branches).free_append rfl
    have hotherwise := conforms_otherwiseTokens otherwise
    exact (hbranches.append hotherwise).append_free rfl
  | inSubquery operand query negated =>
    have hnot : isFree (if negated then [Token.space, .not] else []) = true := by
      cases negated <;> rfl
    have hin : isFree [.space, .inKw, .space, .lparen] = true := rfl
    have hoperand := (operand.conforms.append_free hnot).append_free hin
    exact (hoperand.append query.conforms).append_free rfl
  | between operand low high negated =>
    have hnot : isFree (if negated then [Token.space, .not] else []) = true := by
      cases negated <;> rfl
    have hbetween : isFree [.space, .between, .space] = true := rfl
    have hand : isFree [.space, .and, .space] = true := rfl
    have hoperand := (operand.conforms.append_free hnot).append_free hbetween
    have hlow := (hoperand.append low.conforms).append_free hand
    exact hlow.append high.conforms
  | paren inner => exact (inner.conforms.free_append rfl).append_free rfl
  | overAll function => exact function.conforms.append_free rfl

theorem conforms_exprTokens (es : List Expr) : AllConform d (listQueries es) (exprTokens d es) := by
  cases es with
  | nil => exact .nil
  | cons e es => exact .cons e.conforms (conforms_exprTokens es)

theorem conforms_branchTokens (bs : List (Expr × Expr)) :
    Conforms d (branchQueries bs) (branchTokens d bs) := by
  match bs with
  | [] => exact .of_free rfl
  | (test, value) :: bs =>
    have hthen : isFree [.space, .thenKw, .space] = true := rfl
    have htest : Conforms d test.queries ([.space, .when, .space] ++ test.tokens d) :=
      test.conforms.free_append rfl
    have hvalue := (htest.append_free hthen).append value.conforms
    exact hvalue.append (conforms_branchTokens bs)

theorem conforms_otherwiseTokens (e : Option Expr) :
    Conforms d (otherwiseQueries e) (otherwiseTokens d e) := by
  cases e with
  | none => exact .of_free rfl
  | some e => exact e.conforms.free_append rfl

theorem conforms_selectTokens (items : List (Expr × Option String)) :
    AllConform d (selectQueries items) (selectTokens d items) := by
  match items with
  | [] => exact .nil
  | (e, asName) :: items =>
    have halias : isFree (aliasTokens asName) = true := by cases asName <;> rfl
    exact .cons (e.conforms.append_free halias) (conforms_selectTokens items)

theorem conforms_joinTokens (js : List (TableRef × Expr)) :
    Conforms d (joinQueries js) (joinTokens d js) := by
  match js with
  | [] => exact .of_free rfl
  | (table, condition) :: js =>
    exact (condition.conforms.free_append rfl).append (conforms_joinTokens js)

theorem conforms_sortTokens (keys : List (Expr × Option SortDirection)) :
    AllConform d (sortQueries keys) (sortTokens d keys) := by
  match keys with
  | [] => exact .nil
  | (e, dir) :: keys =>
    have hdir : isFree (dir.elim [] fun dir => [.space, dir.token]) = true := by
      rcases dir with _ | _ | _ <;> rfl
    exact .cons (e.conforms.append_free hdir) (conforms_sortTokens keys)

theorem conforms_sourceTokens (t : Option TableExpr) :
    Conforms d (sourceQueries t) (sourceTokens d t) := by
  cases t with
  | none => exact .of_free rfl
  | some t => exact t.conforms.free_append rfl

/-- Every query conforms: its page window stands behind its own order, and its parts conform for
themselves. -/
theorem Query.conforms (q : Query) : Conforms d q.queries (q.tokens d) := by
  obtain ⟨select, distinct, source, joins, groupBy, orderBy, page⟩ := q
  have hopening : isFree ([Token.select] ++ (if distinct then [Token.space, .distinct] else []) ++
      (if select.isEmpty then [] else [Token.newline, .indent 1])) = true := by
    cases distinct <;> cases select <;> rfl
  have hseparator : isFree [.comma, .newline, .indent 1] = true := rfl
  have hselect := ((conforms_selectTokens select).separated hseparator).free_append hopening
  have hgroup : Conforms d (listQueries groupBy) (if groupBy.isEmpty then []
      else [Token.newline, .groupBy, .space] ++ separated commaSpace (exprTokens d groupBy)) := by
    cases groupBy with
    | nil => exact .of_free rfl
    | cons e es => exact ((conforms_exprTokens (e :: es)).separated rfl).free_append rfl
  have horder : Conforms d (sortQueries orderBy) (if !orderBy.isEmpty then
      [Token.newline, .orderBy, .space] ++ separated commaSpace (sortTokens d orderBy)
      else if d.orderedOffset && page.isSome then placeholderOrder else []) := by
    cases orderBy with
    | nil =>
      refine .of_free ?_
      cases d.orderedOffset && page.isSome <;> rfl
    | cons key keys => exact ((conforms_sortTokens (key :: keys)).separated rfl).free_append rfl
  have hfrom := (hselect.append (conforms_sourceTokens source)).append (conforms_joinTokens joins)
  have hfront := (hfrom.append hgroup).append horder
  -- only now is the window looked at: everything before it conforms by itself
  cases page with
  | none =>
    have hnothing : isFree [] = true := rfl
    exact (hfront.append_free hnothing).own
  | some page => exact hfront.own_page (Option.some.inj rfl) rfl

/-- Whatever a query reads from conforms. -/
theorem TableExpr.conforms (t : TableExpr) : Conforms d t.queries (t.tokens d) := by
  cases t with
  | table ref => exact .of_free rfl
  | call name args asName =>
    have halias : isFree (aliasTokens asName) = true := by cases asName <;> rfl
    have hargs : Conforms d (listQueries args) (separated commaSpace (exprTokens d args)) :=
      (conforms_exprTokens args).separated rfl
    have hopened : Conforms d (listQueries args)
        ([.raw name, .lparen] ++ separated commaSpace (exprTokens d args)) :=
      hargs.free_append rfl
    exact (hopened.append_free rfl).append_free halias
  | subquery query asName =>
    have hopened : Conforms d query.queries ([.lparen] ++ query.tokens d) :=
      query.conforms.free_append rfl
    exact (hopened.append_free rfl).append_free rfl

end

end

/-- A concatenation is written with the operator exactly if the dialect has one. -/
theorem concat_mem_tokens_iff {d : Dialect} {left right : Expr} :
    .concat ∈ (Expr.binary left .concat right).tokens d ↔ d.hasConcatOperator = true := by
  constructor
  · intro hmem
    by_contra hnone
    rw [Bool.not_eq_true] at hnone
    exact ((Expr.binary left .concat right).conforms d).concat hnone hmem
  · intro hop
    rw [Expr.tokens, if_neg (by simp [hop])]
    simp [BinaryOp.token]

/-- For every query, with queries inside it at any depth, and every dialect: no `LIMIT` is written for a
dialect without that clause, and no concatenation operator for one without an operator. Where an offset
needs an order, each of the queries with a page has its offset directly after an order of its own, and
every offset that is written is one of these; the order says nothing exactly if the query has no sort
keys. -/
theorem Query.tokens_conform (q : Query) (d : Dialect) :
    (d.acceptsLimit = false → .limit ∉ q.tokens d) ∧
    (d.hasConcatOperator = false → .concat ∉ q.tokens d) ∧
    (d.orderedOffset = true →
      (∀ s ∈ q.queries, s.tokens d <:+: q.tokens d ∧
        (s.page.isSome = true → ∃ before after, s.WritesOffset d before after)) ∧
      ∀ before after, q.tokens d = before ++ Token.offset :: after →
        ∃ s ∈ q.queries, ∃ outer own rest outer', s.WritesOffset d own rest ∧
          before = outer ++ own ∧ after = rest ++ outer') ∧
    ∀ s : Query, s.offsetOrder d = placeholderOrder ↔ s.sortKeys = [] :=
  ⟨(q.conforms d).limit, (q.conforms d).concat,
    fun hd => ⟨fun s hs => ⟨(q.conforms d).written s hs, exists_writesOffset hd⟩,
      (q.conforms d).offsets hd⟩,
    offsetOrder_eq_placeholder_iff d⟩

/-- A page of joined names, in their order, and the first row of it, in any order. -/
def namesPage : Query :=
  .mk [(.binary (.col "first") .concat (.col "last"), some "name")] false
    (some (.table ⟨none, "people"⟩)) [] [] [(.col "last", some .desc)] (some (some 10, some 20))

def firstName : Query :=
  .mk [(.star none, none)] false (some (.subquery namesPage "page")) [] [] [] (some (some 1, none))

/-- For MySQL no concatenation operator is written, for T-SQL no `LIMIT`, and a page inside of
another query has its own order before its own offset. -/
theorem Query.tokens_conform_nested :
    (Dialect.mysql.hasConcatOperator = false ∧ .concat ∉ firstName.tokens .mysql) ∧
    (Dialect.tsql.acceptsLimit = false ∧ .limit ∉ firstName.tokens .tsql) ∧
    Dialect.tsql.orderedOffset = true ∧ (namesPage.page.isSome = true ∧ namesPage ∈ firstName.queries) ∧
    (∃ before after, namesPage.WritesOffset .tsql before after) ∧
    namesPage.offsetOrder .tsql ≠ placeholderOrder ∧
    (∃ before after, firstName.tokens .tsql = before ++ Token.offset :: after ∧
      ∃ s ∈ firstName.queries, ∃ outer own rest outer', s.WritesOffset .tsql own rest ∧
        before = outer ++ own ∧ after = rest ++ outer') ∧
    firstName.offsetOrder .tsql = placeholderOrder := by
  have hmem : namesPage ∈ firstName.queries := List.mem_cons_of_mem _ List.mem_cons_self
  obtain ⟨hlimit, -, hoffsets, horder⟩ := tokens_conform firstName .tsql
  obtain ⟨hnested, hall⟩ := hoffsets rfl
  obtain ⟨before, after, hown⟩ := (hnested firstName List.mem_cons_self).2 rfl
  exact ⟨⟨rfl, (tokens_conform firstName .mysql).2.1 rfl⟩, ⟨rfl, hlimit rfl⟩, rfl, ⟨rfl, hmem⟩,
    (hnested namesPage hmem).2 rfl, fun h => List.cons_ne_nil _ _ ((horder namesPage).1 h),
    ⟨before, after, hown.tokens, hall before after hown.tokens⟩, (horder firstName).2 rfl⟩

end DatasetSql.Emit
