import DatasetSql.Proofs.Atoms
import DatasetSql.Proofs.NumberChecks
import DatasetSql.Proofs.Persistence
import DatasetSql.Transform.Pipeline

/-!
# Numbers that can be written

The only tokens without a spelling are floating-point values that are not numbers. Parameters hold
none of them, and a rule puts no literal into an expression but those of its parameters, so whatever
is made of a column can be written.
-/

namespace DatasetSql

open Emit

/-! ## Tokens -/

namespace Emit

/-- Whether a token has a spelling. -/
def Token.isWritable : Token → Bool
  | .litFloat .nan | .litFloat (.infinite _) => false
  | _ => true

/-- Every token of a sequence has a spelling. -/
def Writable (ts : List Token) : Prop := ts.all Token.isWritable = true

/-- A writable token has a spelling in every dialect. -/
theorem Token.exists_render (d : Dialect) {t : Token} (h : t.isWritable = true) :
    ∃ text, t.render d = .ok text := by
  cases t with
  | litFloat x =>
    cases x with
    | finite x => exact ⟨_, rfl⟩
    | infinite | nan => exact nomatch h
  | _ => exact ⟨_, rfl⟩

/-- A sequence can be written if every token can. -/
theorem Writable.exists_render (d : Dialect) {ts : List Token} (h : Writable ts) :
    ∃ text, render d ts = .ok text := by
  induction ts with
  | nil => exact ⟨"", rfl⟩
  | cons t ts ih =>
    rw [Writable, List.all_cons, Bool.and_eq_true] at h
    obtain ⟨first, hfirst⟩ := Token.exists_render d h.1
    obtain ⟨rest, hrest⟩ := ih h.2
    exact ⟨first ++ rest, bind_eq_ok.2 ⟨first, hfirst, bind_eq_ok.2 ⟨rest, hrest, rfl⟩⟩⟩

@[simp] theorem writable_nil : Writable [] := rfl

@[simp] theorem writable_cons {t : Token} {ts : List Token} :
    Writable (t :: ts) ↔ t.isWritable = true ∧ Writable ts := by
  rw [Writable, List.all_cons, Bool.and_eq_true, Writable]

/-- Sequences can be written one behind the other if each of them can. -/
@[simp] theorem writable_append {ts ts' : List Token} :
    Writable (ts ++ ts') ↔ Writable ts ∧ Writable ts' := by
  rw [Writable, List.all_append, Bool.and_eq_true, Writable, Writable]

theorem writable_separated (sep : List Token) {tss : List (List Token)} (hsep : Writable sep)
    (h : ∀ ts ∈ tss, Writable ts) : Writable (separated sep tss) := by
  induction tss with
  | nil => rfl
  | cons ts tss ih =>
    obtain ⟨hts, htss⟩ := List.forall_mem_cons.1 h
    cases tss with
    | nil => exact hts
    | cons ts' tss =>
      have hrest := ih htss
      simp [separated, hts, hsep, hrest]

theorem writable_aliasTokens (asName : Option String) : Writable (aliasTokens asName) := by
  cases asName <;> rfl

theorem writable_tableTokens (table : TableRef) : Writable table.tokens := rfl

theorem writable_qualifierTokens (table : Option String) : Writable (qualifierTokens table) := by
  cases table <;> rfl

theorem writable_pageClause (d : Dialect) (limit offset : Option Nat) :
    Writable (pageClause d limit offset) := by
  cases d <;> cases limit <;> cases offset <;> rfl

/-! ## Expressions and queries -/

/-- Whether an atom is no floating-point value, or one that is a number. -/
def Atom.IsFinite : Atom → Prop
  | .literal l => l.token.isWritable = true
  | _ => True

/-- All numbers in an expression are finite. -/
def Expr.IsFinite (e : Expr) : Prop := ∀ a ∈ e.atoms, a.IsFinite

/-- All numbers in a query are finite. -/
def Query.IsFinite (q : Query) : Prop := ∀ a ∈ q.atoms, a.IsFinite

section

variable (d : Dialect)

-- The parts of a tree can be written by what is known of each; the tokens around them are fixed, and
-- none of them is a floating-point value.
mutual

/-- An expression with finite numbers can be written in every dialect. -/
theorem Expr.writable_tokens (e : Expr) (h : ∀ a ∈ e.atoms, a.IsFinite) :
    Writable (e.tokens d) := by
  cases e with
  | column table name => simp [Expr.tokens, Token.isWritable, writable_qualifierTokens table]
  | star table => simp [Expr.tokens, Token.isWritable, writable_qualifierTokens table]
  | raw sql => rfl
  | literal l =>
    have hl : l.token.isWritable = true := h _ List.mem_cons_self
    simp [Expr.tokens, hl]
  | binary left op right =>
    obtain ⟨hleft, hright⟩ := List.forall_mem_append.1 h
    have hleft := left.writable_tokens hleft
    have hright := right.writable_tokens hright
    rw [Expr.tokens]
    split_ifs
    · -- a dialect without the operator calls a function
      simp [commaSpace, Token.isWritable, hleft, hright]
    · have hop : Writable [.space, op.token, .space] := by cases op <;> rfl
      exact writable_append.2 ⟨writable_append.2 ⟨hleft, hop⟩, hright⟩
  | function name args =>
    have hargs := writable_exprTokens args (List.forall_mem_cons.1 h).2
    have hlist := writable_separated commaSpace rfl hargs
    simp [Expr.tokens, Token.isWritable, hlist]
  | cast operand type =>
    have hoperand := operand.writable_tokens (List.forall_mem_append.1 h).1
    simp [Expr.tokens, Token.isWritable, hoperand]
  | case branches otherwise =>
    obtain ⟨hbranches, hotherwise⟩ := List.forall_mem_append.1 h
    have hbranches := writable_branchTokens branches hbranches
    have hotherwise := writable_otherwiseTokens otherwise hotherwise
    simp [Expr.tokens, Token.isWritable, hbranches, hotherwise]
  | inSubquery operand query negated =>
    obtain ⟨hoperand, hquery⟩ := List.forall_mem_append.1 h
    have hoperand := operand.writable_tokens hoperand
    have hquery := query.writable_tokens hquery
    cases negated <;> simp [Expr.tokens, Token.isWritable, hoperand, hquery]
  | between operand low high negated =>
    obtain ⟨h, hhigh⟩ := List.forall_mem_append.1 h
    obtain ⟨hoperand, hlow⟩ := List.forall_mem_append.1 h
    have hoperand := operand.writable_tokens hoperand
    have hlow := low.writable_tokens hlow
    have hhigh := high.writable_tokens hhigh
    cases negated <;> simp [Expr.tokens, Token.isWritable, hoperand, hlow, hhigh]
  | paren inner =>
    have hinner := inner.writable_tokens h
    simp [Expr.tokens, Token.isWritable, hinner]
  | overAll function =>
    have hfunction := function.writable_tokens h
    simp [Expr.tokens, Token.isWritable, hfunction]

theorem writable_exprTokens (es : List Expr) (h : ∀ a ∈ listAtoms es, a.IsFinite) :
    ∀ ts ∈ exprTokens d es, Writable ts := by
  cases es with
  | nil => exact fun ts hts => nomatch hts
  | cons e es =>
    obtain ⟨he, hes⟩ := List.forall_mem_append.1 h
    exact List.forall_mem_cons.2 ⟨e.writable_tokens he, writable_exprTokens es hes⟩

theorem writable_branchTokens (bs : List (Expr × Expr)) (h : ∀ a ∈ branchAtoms bs, a.IsFinite) :
    Writable (branchTokens d bs) := by
  match bs with
  | [] => rfl
  | (test, value) :: bs =>
    obtain ⟨h, hbs⟩ := List.forall_mem_append.1 h
    obtain ⟨htest, hvalue⟩ := List.forall_mem_append.1 h
    have htest := test.writable_tokens htest
    have hvalue := value.writable_tokens hvalue
    have hbs := writable_branchTokens bs hbs
    simp [branchTokens, Token.isWritable, htest, hvalue, hbs]

theorem writable_otherwiseTokens (e : Option Expr) (h : ∀ a ∈ otherwiseAtoms e, a.IsFinite) :
    Writable (otherwiseTokens d e) := by
  cases e with
  | none => rfl
  | some e =>
    have he := e.writable_tokens h
    simp [otherwiseTokens, Token.isWritable, he]

theorem writable_selectTokens (items : List (Expr × Option String))
    (h : ∀ a ∈ selectAtoms items, a.IsFinite) : ∀ ts ∈ selectTokens d items, Writable ts := by
  match items with
  | [] => exact fun ts hts => nomatch hts
  | (e, asName) :: items =>
    obtain ⟨he, hitems⟩ := List.forall_mem_append.1 h
    have hitem := writable_append.2 ⟨e.writable_tokens he, writable_aliasTokens asName⟩
    exact List.forall_mem_cons.2 ⟨hitem, writable_selectTokens items hitems⟩

theorem writable_joinTokens (js : List (TableRef × Expr)) (h : ∀ a ∈ joinAtoms js, a.IsFinite) :
    Writable (joinTokens d js) := by
  match js with
  | [] => rfl
  | (table, condition) :: js =>
    obtain ⟨hcondition, hjs⟩ := List.forall_mem_append.1 h
    have hcondition := condition.writable_tokens hcondition
    have hjs := writable_joinTokens js hjs
    simp [joinTokens, Token.isWritable, writable_tableTokens, hcondition, hjs]

theorem writable_sortTokens (keys : List (Expr × Option SortDirection))
    (h : ∀ a ∈ sortAtoms keys, a.IsFinite) : ∀ ts ∈ sortTokens d keys, Writable ts := by
  match keys with
  | [] => exact fun ts hts => nomatch hts
  | (e, dir) :: keys =>
    obtain ⟨he, hkeys⟩ := List.forall_mem_append.1 h
    have hdir : Writable (dir.elim [] fun dir => [.space, dir.token]) := by
      rcases dir with _ | _ | _ <;> rfl
    have hkey := writable_append.2 ⟨e.writable_tokens he, hdir⟩
    exact List.forall_mem_cons.2 ⟨hkey, writable_sortTokens keys hkeys⟩

theorem writable_sourceTokens (t : Option TableExpr) (h : ∀ a ∈ sourceAtoms t, a.IsFinite) :
    Writable (sourceTokens d t) := by
  cases t with
  | none => rfl
  | some t =>
    have ht := t.writable_tokens h
    simp [sourceTokens, Token.isWritable, ht]

/-- A query with finite numbers can be written: each of its clauses can. -/
theorem Query.writable_tokens (q : Query) (h : ∀ a ∈ q.atoms, a.IsFinite) :
    Writable (q.tokens d) := by
  obtain ⟨select, distinct, source, joins, groupBy, orderBy, page⟩ := q
  obtain ⟨h, horder⟩ := List.forall_mem_append.1 h
  obtain ⟨h, hgroup⟩ := List.forall_mem_append.1 h
  obtain ⟨h, hjoins⟩ := List.forall_mem_append.1 h
  obtain ⟨hselect, hsource⟩ := List.forall_mem_append.1 h
  have hdistinct : Writable (if distinct then [.space, .distinct] else []) := by
    cases distinct <;> rfl
  have hindent : Writable (if select.isEmpty then [] else [.newline, .indent 1]) := by
    split_ifs <;> rfl
  have hitems := writable_separated [.comma, .newline, .indent 1] rfl
    (writable_selectTokens select hselect)
  have hsource := writable_sourceTokens source hsource
  have hjoins := writable_joinTokens joins hjoins
  have hgroups : Writable (if groupBy.isEmpty then []
      else [.newline, .groupBy, .space] ++ separated commaSpace (exprTokens d groupBy)) := by
    have hkeys := writable_separated commaSpace rfl (writable_exprTokens groupBy hgroup)
    split_ifs <;> simp [Token.isWritable, hkeys]
  have horder : Writable (if !orderBy.isEmpty then
        [.newline, .orderBy, .space] ++ separated commaSpace (sortTokens d orderBy)
      else if d.orderedOffset && page.isSome then placeholderOrder else []) := by
    have hkeys := writable_separated commaSpace rfl (writable_sortTokens orderBy horder)
    split_ifs <;> simp [placeholderOrder, Token.isWritable, hkeys]
  have hpage : Writable (page.elim [] fun (limit, offset) => .newline :: pageClause d limit offset) := by
    rcases page with _ | ⟨limit, offset⟩
    · rfl
    · exact writable_cons.2 ⟨rfl, writable_pageClause d limit offset⟩
  rw [Query.tokens]
  simp only [writable_append]
  exact ⟨⟨⟨⟨⟨⟨⟨⟨rfl, hdistinct⟩, hindent⟩, hitems⟩, hsource⟩, hjoins⟩, hgroups⟩, horder⟩, hpage⟩

theorem TableExpr.writable_tokens (t : TableExpr) (h : ∀ a ∈ t.atoms, a.IsFinite) :
    Writable (t.tokens d) := by
  cases t with
  | table ref => exact writable_tableTokens ref
  | call name args asName =>
    have hargs := writable_exprTokens args (List.forall_mem_cons.1 h).2
    have hlist := writable_separated commaSpace rfl hargs
    have halias := writable_aliasTokens asName
    simp [TableExpr.tokens, Token.isWritable, hlist, halias]
  | subquery query asName =>
    have hquery := query.writable_tokens h
    have halias := writable_aliasTokens (some asName)
    simp [TableExpr.tokens, Token.isWritable, hquery, halias]

end

end

/-- A query with finite numbers has a text in every dialect. -/
theorem Query.IsFinite.exists_sql {q : Query} (h : q.IsFinite) (d : Dialect) :
    ∃ sql, q.sql d = .ok sql :=
  (q.writable_tokens d h).exists_render d

namespace Expr

@[simp] theorem isFinite_column (table : Option String) (name : String) :
    (Expr.column table name).IsFinite := fun _ ha => nomatch ha

@[simp] theorem isFinite_col (name : String) : (Expr.col name).IsFinite := isFinite_column none name

@[simp] theorem isFinite_raw (sql : String) : (Expr.raw sql).IsFinite := by
  simp [IsFinite, atoms, Atom.IsFinite]

@[simp] theorem isFinite_literal {l : Literal} :
    (Expr.literal l).IsFinite ↔ l.token.isWritable = true := by
  simp [IsFinite, atoms, Atom.IsFinite]

@[simp] theorem isFinite_str (s : String) : (Expr.str s).IsFinite := isFinite_literal.2 rfl

@[simp] theorem isFinite_int (n : Int) : (Expr.int n).IsFinite := isFinite_literal.2 rfl

@[simp] theorem isFinite_null : Expr.null.IsFinite := isFinite_literal.2 rfl

@[simp] theorem isFinite_binary {l r : Expr} {op : BinaryOp} :
    (Expr.binary l op r).IsFinite ↔ l.IsFinite ∧ r.IsFinite := List.forall_mem_append

@[simp] theorem isFinite_function {name : String} {args : List Expr} :
    (Expr.function name args).IsFinite ↔ ∀ e ∈ args, e.IsFinite :=
  List.forall_mem_cons.trans ((and_iff_right trivial).trans forall_mem_listAtoms)

@[simp] theorem isFinite_cast {e : Expr} {type : String} :
    (Expr.cast e type).IsFinite ↔ e.IsFinite :=
  List.forall_mem_append.trans (and_iff_left (by simp [Atom.IsFinite]))

@[simp] theorem isFinite_case {branches : List (Expr × Expr)} {otherwise : Option Expr} :
    (Expr.case branches otherwise).IsFinite ↔
      (∀ b ∈ branches, b.1.IsFinite ∧ b.2.IsFinite) ∧ ∀ e ∈ otherwise, e.IsFinite := by
  refine List.forall_mem_append.trans (and_congr forall_mem_branchAtoms ?_)
  cases otherwise <;> simp [otherwiseAtoms, IsFinite]

@[simp] theorem isFinite_inSubquery {e : Expr} {q : Query} {negated : Bool} :
    (Expr.inSubquery e q negated).IsFinite ↔ e.IsFinite ∧ q.IsFinite := List.forall_mem_append

@[simp] theorem isFinite_between {e low high : Expr} {negated : Bool} :
    (Expr.between e low high negated).IsFinite ↔ (e.IsFinite ∧ low.IsFinite) ∧ high.IsFinite :=
  List.forall_mem_append.trans (and_congr_left' List.forall_mem_append)

@[simp] theorem isFinite_paren {e : Expr} : (Expr.paren e).IsFinite ↔ e.IsFinite := Iff.rfl

@[simp] theorem isFinite_overAll {e : Expr} : (Expr.overAll e).IsFinite ↔ e.IsFinite := Iff.rfl

@[simp] theorem isFinite_grouped {e : Expr} : e.grouped.IsFinite ↔ e.IsFinite := by
  cases e <;> rfl

end Expr

end Emit

/-! ## Rules -/

namespace Rule

/-- The literals that a rule has from its parameters. -/
def literals : Rule → List Literal
  | .scale factor => [factor]
  | .fillNa value | .encodeCategorical value => [value]
  | .clip lower upper => lower.toList ++ upper.toList
  | .bin edges labels => edges ++ labels
  | .mapValues mapping | .standardizeCategories mapping _ => mapping.map (·.2)
  | _ => []

/-- Whether the rules of a kind have literals. -/
def hasLiterals : TransformationKind → Bool
  | .scale | .fillNa | .encodeCategorical | .clip | .bin | .mapValues | .standardizeCategories => true
  | _ => false

/-- Rules of the other kinds have no literals. -/
theorem literals_eq_nil {r : Rule} (h : hasLiterals r.kind = false) : r.literals = [] := by
  cases r with
  | scale | fillNa | encodeCategorical | clip | bin | mapValues | standardizeCategories =>
    exact nomatch h
  | _ => rfl

/-- All numbers of a rule are finite. -/
def IsFinite (r : Rule) : Prop := ∀ l ∈ r.literals, l.token.isWritable = true

variable {d : Dialect} {e : Expr}

/-- The tests and labels of buckets have finite numbers if the edges and labels do. -/
theorem isFinite_buckets {edges labels : List Literal} (he : e.IsFinite)
    (hedges : ∀ l ∈ edges, l.token.isWritable = true)
    (hlabels : ∀ l ∈ labels, l.token.isWritable = true) :
    ∀ b ∈ buckets e edges labels, b.1.IsFinite ∧ b.2.IsFinite := by
  fun_induction buckets e edges labels with
  | case1 low high edges label labels upper ih =>
    obtain ⟨hlow, hedges⟩ := List.forall_mem_cons.1 hedges
    obtain ⟨hlabel, hlabels⟩ := List.forall_mem_cons.1 hlabels
    have hhigh := hedges high List.mem_cons_self
    refine List.forall_mem_cons.2 ⟨⟨?_, ?_⟩, ih hedges hlabels⟩
    · simp [compare, upper, lit, he, hlow, hhigh]
    · simpa [lit] using hlabel
  | case2 => exact fun b hb => nomatch hb

/-- A mapped value has finite numbers if the values of the mapping do. -/
theorem isFinite_mapped {mapping : List (String × Literal)} (caseSensitive : Bool)
    (he : e.IsFinite) (h : ∀ l ∈ mapping.map (·.2), l.token.isWritable = true) :
    (mapped mapping caseSensitive e).IsFinite := by
  simp only [mapped, Expr.isFinite_case, List.forall_mem_map]
  refine ⟨fun entry hentry => ?_, by simpa using he⟩
  have hvalue := h _ (List.mem_map_of_mem hentry)
  cases caseSensitive <;> simp [lit, he, hvalue]

/-- A rule keeps the numbers of an expression and adds its own. -/
theorem IsFinite.apply {r : Rule} (hr : r.IsFinite) (he : e.IsFinite) :
    (r.apply d e).IsFinite := by
  unfold IsFinite at hr
  cases r with
  | anonymize => cases d <;> simp [Rule.apply, anonymized, he]
  | convertTimezone source target => cases d <;> simp [Rule.apply, inTimezone, he]
  | formatDate format => cases d <;> simp [Rule.apply, formatted, he]
  | toDatetime format =>
    cases format with
    | none => simpa [Rule.apply] using he
    | some format => cases d <;> simp [Rule.apply, formatted, he]
  | truncate length addEllipsis => cases addEllipsis <;> simp [Rule.apply, truncated, he]
  | clip lower upper =>
    cases lower <;> cases upper <;> simp_all [Rule.apply, clipped, literals, lit]
  | bin edges labels =>
    obtain ⟨hedges, hlabels⟩ := List.forall_mem_append.1 hr
    simpa [Rule.apply] using isFinite_buckets he hedges hlabels
  | mapValues mapping => exact isFinite_mapped true he hr
  | standardizeCategories mapping caseSensitive => exact isFinite_mapped caseSensitive he hr
  | normalizePhone code =>
    simp only [Rule.apply, phoneNumber]
    split_ifs <;> simp [he]
  | ensurePositive drop => cases drop <;> simp [Rule.apply, keepWhen, he]
  | validateForeignKey table column =>
    have hlookup : (lookup table column).IsFinite := fun a ha => nomatch ha
    simp [Rule.apply, keepWhen, he, hlookup]
  -- these leave the expression alone
  | rename | removeDuplicates => exact he
  | _ =>
    simp_all [Rule.apply, compare, lit, keepWhen, quotient, overall, literals]

/-- Rules that are applied one after the other leave finite numbers only. -/
theorem isFinite_foldl_apply {rules : List Rule} (h : ∀ r ∈ rules, r.IsFinite) (he : e.IsFinite) :
    (rules.foldl (Rule.apply d) e).IsFinite := by
  induction rules generalizing e with
  | nil => exact he
  | cons r rules ih =>
    obtain ⟨hr, hrules⟩ := List.forall_mem_cons.1 h
    exact ih hrules (hr.apply he)

end Rule

/-! ## Parameters -/

/-- A JSON number is finite, so every literal that is read can be written. -/
theorem isWritable_scalarLiteral {v : Json.Value} {l : Literal} (h : scalarLiteral v = .ok l) :
    l.token.isWritable = true := by
  unfold scalarLiteral at h
  split at h
  next => cases h; rfl
  next => cases h; rfl
  next n =>
    split at h
    · cases h; rfl
    · cases h; rfl
  next => cases h; rfl
  next => exact nomatch h

namespace Params

variable {p : Params} {name : String}

/-- A literal that is made of a parameter can be written: what is no finite number is refused. -/
theorem isWritable_literal {v : Json.Value} {l : Literal} (h : p.literal name v = .ok l) :
    l.token.isWritable = true :=
  isWritable_scalarLiteral (literal_eq_ok h)

theorem isWritable_optionalNumber {l : Option Literal} (h : p.optionalNumber name = .ok l) :
    ∀ l' ∈ l.toList, l'.token.isWritable = true := by
  unfold optionalNumber at h
  split at h
  next => cases h; exact fun l' hl => nomatch hl
  next n =>
    obtain ⟨l', hl, h⟩ := bind_eq_ok.1 h
    cases h
    simpa using isWritable_literal hl
  next => exact nomatch h

theorem isWritable_requiredNumber {l : Literal} (h : p.requiredNumber name = .ok l) :
    l.token.isWritable = true := by
  obtain ⟨l', hl, h⟩ := bind_eq_ok.1 h
  cases l' with
  | none => exact nomatch h
  | some l' =>
    cases h
    exact isWritable_optionalNumber hl l (by simp)

theorem isWritable_requiredScalar {l : Literal} (h : p.requiredScalar name = .ok l) :
    l.token.isWritable = true := by
  unfold requiredScalar at h
  split at h
  next v hv => exact isWritable_literal h
  next => exact nomatch h

theorem isWritable_requiredMapping {mapping : List (String × Literal)}
    (h : p.requiredMapping name = .ok mapping) :
    ∀ l ∈ mapping.map (·.2), l.token.isWritable = true := by
  obtain ⟨v, -, h⟩ := bind_eq_ok.1 h
  cases v with
  | object entries =>
    refine List.forall_mem_map.2 fun entry hentry => ?_
    obtain ⟨member, -, hmember⟩ := (mem_of_mapM_eq_ok (guard_eq_ok.1 h).2).1 hentry
    unfold mappingEntry at hmember
    split at hmember
    next l hl =>
      cases hmember
      exact isWritable_scalarLiteral hl
    next => exact nomatch hmember
  | null | bool | number | string | array => exact nomatch h

theorem isFinite_clipRule {r : Rule} (h : p.clipRule = .ok r) : r.IsFinite := by
  obtain ⟨lower, upper, rfl, hlower, hupper, -⟩ := clipRule_eq_ok h
  exact List.forall_mem_append.2 ⟨isWritable_optionalNumber hlower, isWritable_optionalNumber hupper⟩

/-- Edges and labels that are read are finite. -/
theorem isFinite_binRule {r : Rule} (h : p.binRule = .ok r) : r.IsFinite := by
  obtain ⟨edges, labels, rfl, hedges, hlabels, -⟩ := binRule_eq_ok h
  refine List.forall_mem_append.2 ⟨fun l hl => ?_, fun l hl => ?_⟩
  · obtain ⟨n, hn⟩ := (edges_eq_ok hedges).1 l hl
    exact isWritable_scalarLiteral hn
  · obtain ⟨v, hv⟩ := hlabels l hl
    exact isWritable_scalarLiteral hv

/-- All numbers of a rule that was made of parameters are finite. -/
theorem isFinite_rule {r : Rule} (h : p.rule = .ok r) : r.IsFinite := by
  obtain ⟨kind, entries⟩ := p
  cases kind with
  | scale =>
    obtain ⟨l, hl, h⟩ := bind_eq_ok.1 h
    cases h
    exact List.forall_mem_singleton.2 (isWritable_requiredNumber hl)
  | fillNa | encodeCategorical =>
    obtain ⟨l, hl, h⟩ := bind_eq_ok.1 h
    cases h
    exact List.forall_mem_singleton.2 (isWritable_requiredScalar hl)
  | mapValues =>
    obtain ⟨mapping, hmapping, h⟩ := bind_eq_ok.1 h
    cases h
    exact isWritable_requiredMapping hmapping
  | standardizeCategories =>
    obtain ⟨mapping, hmapping, h⟩ := bind_eq_ok.1 h
    obtain ⟨caseSensitive, -, h⟩ := bind_eq_ok.1 h
    cases h
    exact isWritable_requiredMapping hmapping
  | clip => exact isFinite_clipRule h
  | bin => exact isFinite_binRule h
  | _ =>
    have hnone : r.literals = [] := Rule.literals_eq_nil (by rw [rule_ofKind _ r h]; rfl)
    rw [Rule.IsFinite, hnone]
    exact fun l hl => nomatch hl

end Params

/-- All numbers of a transformation that was made of parameters are finite. -/
theorem Transformation.isFinite_rule {kind : TransformationKind} {params : Json.Value}
    {t : Transformation} (h : ofKind kind params = .ok t) : t.rule.IsFinite :=
  Params.isFinite_rule (ofKind_eq_ok.1 h).2.2

end DatasetSql
