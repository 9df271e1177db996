import DatasetSql.Transform.Pipeline
import Mathlib.Tactic.SplitIfs

/-!
# What rules build around an expression

The parts of an emitted expression are the expressions that it is made of. A rule takes the
expression of a column as it is and builds around it: every part of the result is a part of the
expression or an addition, which is neither a column nor a taken-over text, and calls no other
functions than those of the catalog. A rule never drops the expression, unless it sorts values into
no buckets at all.
-/

namespace DatasetSql

open Emit

namespace Emit

mutual

/-- The expressions that an expression is made of, itself first. A function over all rows counts as
one expression with its window, and queries are not entered: they have tables and rows of their own. -/
def Expr.parts : Expr → List Expr
  | .column table name => [.column table name]
  | .literal value => [.literal value]
  | .binary left op right => .binary left op right :: (left.parts ++ right.parts)
  | .function name args => .function name args :: listParts args
  | .cast operand type => .cast operand type :: operand.parts
  | .case branches otherwise =>
    .case branches otherwise :: (branchParts branches ++ otherwiseParts otherwise)
  | .inSubquery operand query negated => .inSubquery operand query negated :: operand.parts
  | .between operand low high negated =>
    .between operand low high negated :: (operand.parts ++ low.parts ++ high.parts)
  | .star table => [.star table]
  | .paren inner => .paren inner :: inner.parts
  | .overAll function => .overAll function :: function.parts.tail
  | .raw sql => [.raw sql]

/-- The parts of expressions. -/
def listParts : List Expr → List Expr
  | [] => []
  | e :: es => e.parts ++ listParts es

/-- The parts of the branches of a `CASE`. -/
def branchParts : List (Expr × Expr) → List Expr
  | [] => []
  | (test, value) :: bs => test.parts ++ value.parts ++ branchParts bs

/-- The parts of the last branch of a `CASE`. -/
def otherwiseParts : Option Expr → List Expr
  | none => []
  | some e => e.parts

end

theorem mem_listParts {x : Expr} {es : List Expr} :
    x ∈ listParts es ↔ ∃ e ∈ es, x ∈ e.parts := by
  induction es with
  | nil => simp [listParts]
  | cons e es ih => simp [listParts, ih]

theorem mem_branchParts {x : Expr} {bs : List (Expr × Expr)} :
    x ∈ branchParts bs ↔ ∃ b ∈ bs, x ∈ b.1.parts ∨ x ∈ b.2.parts := by
  induction bs with
  | nil => simp [branchParts]
  | cons b bs ih => simp [branchParts, ih, or_assoc]

end Emit

namespace Rule

/-- The functions that the rules call, other than over all rows. -/
def functions : List String :=
  ["HASHBYTES", "STANDARD_HASH", "TO_HEX", "MD5", "CONVERT_TZ", "TIMEZONE", "STRFTIME", "STRPTIME",
    "SUBSTR", "LENGTH", "GREATEST", "LEAST", "NULLIF", "LOWER", "UPPER", "TRIM", "ROUND",
    "COALESCE", "REPLACE", "REGEXP_EXTRACT", "REGEXP_MATCHES", "REGEXP_REPLACE", "LPAD", "RPAD",
    "ABS"]

/-- Whether a rule may add an expression: neither a column nor a text that is taken over, and no
call of a function outside the catalog. -/
def IsAddition : Expr → Prop
  | .column _ _ | .star _ | .raw _ => False
  | .function name _ => name ∈ functions
  | _ => True

/-- Every part of an expression is a part of another one, or an addition to it. -/
def BuiltOn (e a : Expr) : Prop := ∀ x ∈ a.parts, x ∈ e.parts ∨ IsAddition x

section

variable {e a b c : Expr}

@[simp] theorem BuiltOn.refl : BuiltOn e e := fun _ => .inl

/-- What is built on something that is built on an expression is built on it. -/
theorem BuiltOn.trans (ha : BuiltOn e a) (hb : BuiltOn a b) : BuiltOn e b := fun x hx =>
  (hb x hx).elim (ha x) .inr

/-- An addition needs only what is in it to be built on an expression. -/
theorem builtOn_iff {parts : List Expr} (hparts : a.parts = a :: parts) (ha : IsAddition a) :
    BuiltOn e a ↔ ∀ x ∈ parts, x ∈ e.parts ∨ IsAddition x := by
  rw [BuiltOn, hparts, List.forall_mem_cons]
  exact and_iff_right (.inr ha)

@[simp] theorem builtOn_literal {value : Literal} : BuiltOn e (.literal value) :=
  Iff.mpr (builtOn_iff rfl trivial) (List.forall_mem_nil _)

@[simp] theorem builtOn_binary {op : BinaryOp} :
    BuiltOn e (.binary a op b) ↔ BuiltOn e a ∧ BuiltOn e b :=
  Iff.trans (builtOn_iff rfl trivial) List.forall_mem_append

theorem forall_mem_listParts {P : Expr → Prop} {args : List Expr} :
    (∀ x ∈ listParts args, P x) ↔ ∀ a ∈ args, ∀ x ∈ a.parts, P x := by
  simp only [mem_listParts]
  exact ⟨fun h a ha x hx => h x ⟨a, ha, hx⟩, fun h x ⟨a, ha, hx⟩ => h a ha x hx⟩

@[simp] theorem builtOn_function {name : String} {args : List Expr} (hname : name ∈ functions) :
    BuiltOn e (.function name args) ↔ ∀ a ∈ args, BuiltOn e a :=
  Iff.trans (builtOn_iff rfl hname) forall_mem_listParts

@[simp] theorem builtOn_cast {type : String} : BuiltOn e (.cast a type) ↔ BuiltOn e a :=
  builtOn_iff rfl trivial

@[simp] theorem builtOn_case {branches : List (Expr × Expr)} {otherwise : Option Expr} :
    BuiltOn e (.case branches otherwise) ↔
      (∀ p ∈ branches, BuiltOn e p.1 ∧ BuiltOn e p.2) ∧ ∀ a ∈ otherwise, BuiltOn e a := by
  refine Iff.trans (builtOn_iff rfl trivial) (List.forall_mem_append.trans (and_congr ?_ ?_))
  · simp only [mem_branchParts, BuiltOn]
    constructor
    · intro h p hp
      exact ⟨fun x hx => h x ⟨p, hp, .inl hx⟩, fun x hx => h x ⟨p, hp, .inr hx⟩⟩
    · rintro h x ⟨p, hp, hx⟩
      exact hx.elim ((h p hp).1 x) ((h p hp).2 x)
  · cases otherwise with
    | none => simp [otherwiseParts]
    | some a => simp [otherwiseParts, BuiltOn]

@[simp] theorem builtOn_inSubquery {query : Query} {negated : Bool} :
    BuiltOn e (.inSubquery a query negated) ↔ BuiltOn e a :=
  builtOn_iff rfl trivial

@[simp] theorem builtOn_between {negated : Bool} :
    BuiltOn e (.between a b c negated) ↔ (BuiltOn e a ∧ BuiltOn e b) ∧ BuiltOn e c :=
  Iff.trans (builtOn_iff rfl trivial)
    (List.forall_mem_append.trans (and_congr List.forall_mem_append Iff.rfl))

@[simp] theorem builtOn_paren : BuiltOn e (.paren a) ↔ BuiltOn e a :=
  builtOn_iff rfl trivial

/-- Which function ranges over all rows does not matter. -/
@[simp] theorem builtOn_overall {name : String} : BuiltOn e (overall name a) ↔ BuiltOn e a := by
  have hargs : BuiltOn e (overall name a) ↔ ∀ x ∈ listParts [a], x ∈ e.parts ∨ IsAddition x :=
    builtOn_iff rfl trivial
  rw [hargs, forall_mem_listParts, List.forall_mem_singleton]
  rfl

@[simp] theorem builtOn_grouped : BuiltOn e a.grouped ↔ BuiltOn e a := by
  unfold Expr.grouped
  split <;> simp

end

/-! ## The rules -/

variable {d : Dialect} {e : Expr}

/-- The tests and labels of all buckets are built on the value. -/
theorem builtOn_buckets : ∀ edges labels : List Literal, ∀ p ∈ buckets e edges labels,
    BuiltOn e p.1 ∧ BuiltOn e p.2
  | [], _ | [_], _ | _ :: _ :: _, [] => List.forall_mem_nil _
  | low :: high :: edges, label :: labels => by
    have hrest := builtOn_buckets (high :: edges) labels
    refine List.forall_mem_cons.2 ⟨?_, hrest⟩
    simp [compare, lit]

theorem builtOn_mapped {mapping : List (String × Literal)} {caseSensitive : Bool} :
    BuiltOn e (mapped mapping caseSensitive e) := by
  simp only [mapped, builtOn_case, List.forall_mem_map]
  refine ⟨fun entry _ => ?_, by simp⟩
  cases caseSensitive <;> simp (disch := decide) [lit, Expr.str]

/-- Every part of what a rule makes of an expression is a part of the expression or an addition. -/
theorem builtOn_apply (r : Rule) : BuiltOn e (r.apply d e) := by
  cases r with
  | anonymize => cases d <;> simp (disch := decide) [Rule.apply, anonymized, Expr.str]
  | convertTimezone source target => cases d <;> simp (disch := decide) [Rule.apply, inTimezone, Expr.str]
  | formatDate format => cases d <;> simp (disch := decide) [Rule.apply, formatted, Expr.str]
  | toDatetime format =>
    cases format with
    | none => simp [Rule.apply]
    | some format => cases d <;> simp (disch := decide) [Rule.apply, formatted, Expr.str]
  | truncate length addEllipsis =>
    cases addEllipsis <;> simp (disch := decide) [Rule.apply, truncated, Expr.str, Expr.int]
  | pad width side padChar => cases side <;> simp (disch := decide) [Rule.apply, Expr.str, Expr.int]
  | clip lower upper => cases lower <;> cases upper <;> simp (disch := decide) [Rule.apply, clipped, lit]
  | bin edges labels => simpa [Rule.apply] using builtOn_buckets edges labels
  -- lists of values are built on by induction, all other rules in a fixed number of steps
  | mapValues mapping => exact builtOn_mapped
  | standardizeCategories mapping caseSensitive => exact builtOn_mapped
  | normalizePhone code =>
    simp only [Rule.apply, phoneNumber]
    split_ifs <;> simp (disch := decide) [Expr.str]
  | ensurePositive drop =>
    cases drop <;> simp (disch := decide) [Rule.apply, keepWhen, Expr.int, Expr.null]
  | rename | removeDuplicates => exact .refl
  | _ =>
    simp (disch := decide) [Rule.apply, compare, keepWhen, quotient, lit, Expr.str, Expr.int, Expr.null]

/-- Rules that are applied one after the other add to an expression. -/
theorem builtOn_foldl_apply (rules : List Rule) : BuiltOn e (rules.foldl (Rule.apply d) e) := by
  induction rules generalizing e with
  | nil => exact .refl
  | cons r rules ih => exact (builtOn_apply r).trans ih

/-- Whether a rule keeps what it is applied to. A binning writes it in each bucket. -/
def KeepsValue : Rule → Prop
  | .bin edges labels => 1 < edges.length ∧ labels ≠ []
  | _ => True

theorem parts_subset_grouped : e.parts ⊆ e.grouped.parts := by
  unfold Expr.grouped
  split
  case h_4 => exact fun _ hx => hx
  all_goals exact List.subset_cons_self ..

/-- The parts of an expression are parts of what a rule makes of it. -/
theorem parts_subset_apply {r : Rule} (hr : r.KeepsValue) : e.parts ⊆ (r.apply d e).parts := by
  intro x hx
  -- most rules have the expression itself as an operand, some only in parentheses
  have hgrouped : x ∈ e.grouped.parts := parts_subset_grouped hx
  cases r with
  | anonymize => cases d <;> simp [Rule.apply, anonymized, Expr.parts, listParts, hx]
  | convertTimezone source target =>
    cases d <;> simp [Rule.apply, inTimezone, Expr.parts, listParts, hx]
  | formatDate format => cases d <;> simp [Rule.apply, formatted, Expr.parts, listParts, hx]
  | toDatetime format =>
    cases format with
    | none => simp [Rule.apply, Expr.parts, hx]
    | some format => cases d <;> simp [Rule.apply, formatted, Expr.parts, listParts, hx]
  | truncate length addEllipsis =>
    cases addEllipsis <;>
      simp [Rule.apply, truncated, Expr.parts, listParts, otherwiseParts, hx]
  | clip lower upper =>
    cases lower <;> cases upper <;> simp [Rule.apply, clipped, Expr.parts, listParts, hx]
  | bin edges labels =>
    match edges, labels, hr with
    | low :: high :: edges, label :: labels, _ =>
      simp [Rule.apply, buckets, compare, Expr.parts, branchParts, hgrouped]
  | mapValues mapping => simp [Rule.apply, mapped, Expr.parts, otherwiseParts, hx]
  | standardizeCategories mapping caseSensitive =>
    simp [Rule.apply, mapped, Expr.parts, otherwiseParts, hx]
  | normalizePhone code => simp [Rule.apply, phoneNumber, Expr.parts, listParts, hx]
  | ensurePositive drop =>
    cases drop <;> simp [Rule.apply, keepWhen, Expr.parts, listParts, branchParts, hx]
  | rename | removeDuplicates => exact hx
  | _ =>
    simp [Rule.apply, compare, keepWhen, quotient, overall, Expr.parts, listParts, branchParts, hx,
      hgrouped]

/-- Rules that keep the value keep all of its parts. -/
theorem parts_subset_foldl_apply {rules : List Rule} (h : ∀ r ∈ rules, r.KeepsValue) :
    e.parts ⊆ (rules.foldl (Rule.apply d) e).parts := by
  induction rules generalizing e with
  | nil => exact List.Subset.refl _
  | cons r rules ih =>
    obtain ⟨hr, hrules⟩ := List.forall_mem_cons.1 h
    exact List.Subset.trans (parts_subset_apply hr) (ih hrules)

end Rule

end DatasetSql
