import DatasetSql.Transform.Pipeline

/-!
# Values of transformed columns

An evaluator of emitted expressions on one row, with the three-valued logic of SQL. Functions and
casts are arbitrary functions of the values of their arguments. A rule that looks at one row only
has a value function, and the value of a transformed column is obtained by applying the value
functions of its rules one after the other.
-/

namespace DatasetSql

open Emit

/-! ## Values -/

/-- What expressions mean over a domain of values other than null: the constants, the operators on
them, and any functions and casts. -/
structure Meaning (D : Type) where
  ofBool : Bool → D
  ofInt : Int → D
  ofFloat : Numeric.FloatValue → D
  ofString : String → D
  /-- Whether a value counts as true. -/
  holds : D → Bool
  holds_ofBool : ∀ b, holds (ofBool b) = b
  /-- How two values compare under `=`, `<`, `>`, `<=` and `>=`. -/
  compare : BinaryOp → D → D → Bool
  /-- What an operator computes from two values; it may be null, as a quotient by zero. -/
  compute : BinaryOp → D → D → Option D
  function : String → List (Option D) → Option D
  cast : String → Option D → Option D

/-- A row: the values of its columns, and of whatever else the row decides in a query. -/
structure Row (D : Type) where
  column : Option String → String → Option D
  other : Expr → Option D

namespace Meaning

variable {D : Type} (m : Meaning D)

/-- The value of a literal. -/
def literal : Literal → Option D
  | .int i => some (m.ofInt i)
  | .float x => some (m.ofFloat x)
  | .string s => some (m.ofString s)
  | .bool b => some (m.ofBool b)
  | .null => none

/-- The value of a string. -/
def string (s : String) : Option D := some (m.ofString s)

/-- The value of an integer. -/
def int (i : Int) : Option D := some (m.ofInt i)

/-- The truth of a value; null is unknown. -/
def truth (v : Option D) : Option Bool := v.map m.holds

/-- Whether a value is true: neither false nor unknown. -/
def isTrue (v : Option D) : Bool := m.truth v == some true

/-- Conjunction: false if one side is, else unknown if one side is. -/
def and3 : Option Bool → Option Bool → Option Bool
  | some false, _ | _, some false => some false
  | some true, some true => some true
  | _, _ => none

/-- A comparison, which is unknown if a side is null. -/
def compare3 (op : BinaryOp) (v w : Option D) : Option Bool :=
  v.bind fun x => w.map fun y => m.compare op x y

/-- Whether a comparison is true. -/
def test (op : BinaryOp) (v w : Option D) : Bool := m.compare3 op v w == some true

/-- Whether an operator is a comparison. -/
def isComparison : BinaryOp → Bool
  | .eq | .lt | .gt | .lte | .gte => true
  | .and | .minus | .mul | .div | .concat => false

/-- An operator on values. -/
def binary (op : BinaryOp) (v w : Option D) : Option D :=
  match op with
  | .and => (and3 (m.truth v) (m.truth w)).map m.ofBool
  | .eq | .lt | .gt | .lte | .gte => (m.compare3 op v w).map m.ofBool
  | .minus | .mul | .div | .concat => v.bind fun x => w.bind fun y => m.compute op x y

/-- `v BETWEEN low AND high`, or its negation. -/
def between (v low high : Option D) (negated : Bool) : Option D :=
  let inside := and3 (m.compare3 .gte v low) (m.compare3 .lte v high)
  (inside.map fun b => if negated then !b else b).map m.ofBool

end Meaning

namespace Emit

variable {D : Type} (m : Meaning D) (row : Row D)

mutual

/-- The value of an expression on a row. -/
def Expr.value : Expr → Option D
  | .column table name => row.column table name
  | .literal l => m.literal l
  | .binary left op right => m.binary op left.value right.value
  | .function name args => m.function name (values args)
  | .cast operand type => m.cast type operand.value
  | .case branches otherwise => caseValue (otherwiseValue otherwise) branches
  | .between operand low high negated =>
    m.between operand.value low.value high.value negated
  | .paren inner => inner.value
  | .inSubquery operand query negated => row.other (.inSubquery operand query negated)
  | .star table => row.other (.star table)
  | .overAll function => row.other (.overAll function)
  | .raw sql => row.other (.raw sql)

/-- The values of expressions. -/
def values : List Expr → List (Option D)
  | [] => []
  | e :: es => e.value :: values es

/-- The value of the first branch whose test is true. -/
def caseValue (otherwise : Option D) : List (Expr × Expr) → Option D
  | [] => otherwise
  | (test, e) :: branches => if m.isTrue test.value then e.value else caseValue otherwise branches

/-- The value of the last branch of a `CASE`, null if there is none. -/
def otherwiseValue : Option Expr → Option D
  | none => none
  | some e => e.value

end

end Emit

/-! ## Value functions -/

namespace Rule

variable {D : Type} (m : Meaning D)

/-- A value that stays on a condition only. -/
def keptIf (condition : Bool) (v : Option D) : Option D := if condition then v else none

/-- The digest of a text. -/
def digest (d : Dialect) (text : Option D) : Option D :=
  match d with
  | .tsql => m.function "HASHBYTES" [m.string "MD5", text]
  | .oracle => m.function "STANDARD_HASH" [text, m.string "MD5"]
  | .bigquery => m.function "TO_HEX" [m.function "MD5" [text]]
  | _ => m.function "MD5" [text]

/-- A time of one zone in another. -/
def zonedValue (d : Dialect) (source target : String) (v : Option D) : Option D :=
  match d with
  | .mysql => m.function "CONVERT_TZ" [v, m.string source, m.string target]
  | _ => m.function "TIMEZONE" [m.string target, m.function "TIMEZONE" [m.string source, v]]

/-- A function of a date and a format, which stands first in one dialect. -/
def formattedValue (d : Dialect) (name format : String) (v : Option D) : Option D :=
  m.function name (if d = .bigquery then [m.string format, v] else [v, m.string format])

/-- The first characters of a text, with an ellipsis if it is longer and one is wanted. -/
def truncatedValue (length : Int) (addEllipsis : Bool) (v : Option D) : Option D :=
  let cut := m.function "SUBSTR" [v, m.int 1, m.int length]
  if !addEllipsis then cut
  else if m.test .gt (m.function "LENGTH" [v]) (m.int length) then
    m.binary .concat cut (m.string "...")
  else v

/-- A number after one bound has been applied to it by a function, if there is one. -/
def boundedValue (name : String) (bound : Option Literal) (v : Option D) : Option D :=
  bound.elim v fun l => m.function name [v, m.literal l]

/-- A bucket of a binning, and whether its upper edge belongs to it. -/
structure Bucket where
  low : Literal
  high : Literal
  closed : Bool
  label : Literal

/-- The buckets between neighbouring edges; only the last one is closed. -/
def bucketsOf (edges labels : List Literal) : List Bucket :=
  ((edges.zip edges.tail).zip labels).mapIdx fun i (ends, label) =>
    { low := ends.1, high := ends.2, closed := i + 1 == labels.length, label }

/-- Whether a value lies in a bucket. -/
def Bucket.contains (b : Bucket) (v : Option D) : Bool :=
  m.test .gte v (m.literal b.low) &&
    m.test (if b.closed then .lte else .lt) v (m.literal b.high)

/-- The label of the first bucket that contains a value; null if none does. -/
def binnedValue (edges labels : List Literal) (v : Option D) : Option D :=
  ((bucketsOf edges labels).find? fun b => b.contains m v).bind fun b => m.literal b.label

/-- How a value and a key are compared: as they are, or folded to lower case. -/
def folded (caseSensitive : Bool) (v : Option D) : Option D :=
  if caseSensitive then v else m.function "LOWER" [v]

/-- The literal of the first entry whose key equals a value; the value itself if there is none. -/
def mappedValue (mapping : List (String × Literal)) (caseSensitive : Bool) (v : Option D) :
    Option D :=
  let equals (entry : String × Literal) : Bool :=
    m.test .eq (folded m caseSensitive v) (folded m caseSensitive (m.string entry.1))
  (mapping.find? equals).elim v fun entry => m.literal entry.2

/-- The digits of a telephone number after its country code. -/
def phoneValue (d : Dialect) (countryCode : String) (v : Option D) : Option D :=
  let flags := if d = .duckdb ∨ d = .postgres then [m.string "g"] else []
  m.binary .concat (m.string countryCode)
    (m.function "REGEXP_REPLACE" ([v, m.string nonDigits, m.string ""] ++ flags))

/-- Whether what a rule gives on a row is decided by that row. -/
def IsRowLocal (r : Rule) : Prop :=
  r.kind ≠ .normalize ∧ r.kind ≠ .standardize ∧ r.kind ≠ .validateForeignKey

/-- What a rule makes of a value on one row; null where other rows decide it. -/
def value (d : Dialect) (v : Option D) : Rule → Option D
  | .anonymize => digest m d (m.cast (d.typeName .string) v)
  | .convertTimezone source target => zonedValue m d source target v
  | .toLowercase => m.function "LOWER" [v]
  | .toUppercase => m.function "UPPER" [v]
  | .strip => m.function "TRIM" [v]
  | .roundNumbers decimals => m.function "ROUND" [v, m.int decimals]
  | .scale factor => m.binary .mul v (m.literal factor)
  | .formatDate format => formattedValue m d "STRFTIME" format v
  | .toNumeric => m.cast (d.typeName .float) v
  | .toDatetime none => m.cast (d.typeName .datetime) v
  | .toDatetime (some format) => formattedValue m d "STRPTIME" format v
  | .fillNa l => m.function "COALESCE" [v, m.literal l]
  | .replace oldValue newValue => m.function "REPLACE" [v, m.string oldValue, m.string newValue]
  | .extract pattern => m.function "REGEXP_EXTRACT" [v, m.string pattern]
  | .truncate length addEllipsis => truncatedValue m length addEllipsis v
  | .pad width .left padChar => m.function "LPAD" [v, m.int width, m.string padChar]
  | .pad width .right padChar => m.function "RPAD" [v, m.int width, m.string padChar]
  | .clip lower upper => boundedValue m "LEAST" upper (boundedValue m "GREATEST" lower v)
  | .bin edges labels => binnedValue m edges labels v
  | .mapValues mapping => mappedValue m mapping true v
  | .rename _ | .removeDuplicates _ => v
  | .encodeCategorical l => if m.test .eq v (m.literal l) then m.int 1 else m.int 0
  | .validateEmail => keptIf (m.isTrue (m.function "REGEXP_MATCHES" [v, m.string emailPattern])) v
  | .validateDateRange startDate endDate =>
    keptIf (m.test .gte v (m.string startDate) && m.test .lte v (m.string endDate)) v
  | .normalizePhone countryCode => phoneValue m d countryCode v
  | .ensurePositive true => keptIf (m.test .gt v (m.int 0)) v
  | .ensurePositive false => m.function "ABS" [v]
  | .standardizeCategories mapping caseSensitive => mappedValue m mapping caseSensitive v
  | .normalize | .standardize | .validateForeignKey _ _ => none

end Rule

/-! ## Three-valued logic -/

namespace Meaning

variable {D : Type} (m : Meaning D)

/-- A truth value is true if it is known to be. -/
theorem isTrue_map_ofBool (b : Option Bool) : m.isTrue (b.map m.ofBool) = (b == some true) := by
  cases b with
  | none => rfl
  | some b => simp [isTrue, truth, m.holds_ofBool]

/-- A conjunction is true exactly if both sides are; an unknown side never makes it true. -/
theorem and3_eq_some_true (a b : Option Bool) :
    (and3 a b == some true) = (a == some true && b == some true) := by
  cases a with
  | none => cases b with
    | none => rfl
    | some b => cases b <;> rfl
  | some a => cases a <;> cases b with
    | none => rfl
    | some b => cases b <;> rfl

/-- A conjunction of values is true exactly if both are. -/
theorem isTrue_and (v w : Option D) :
    m.isTrue (m.binary .and v w) = (m.isTrue v && m.isTrue w) := by
  rw [binary, isTrue_map_ofBool, and3_eq_some_true]
  rfl

/-- A value is between two others exactly if both comparisons are true. -/
theorem isTrue_between (v low high : Option D) :
    m.isTrue (m.between v low high false) = (m.test .gte v low && m.test .lte v high) := by
  have hkeep (b : Option Bool) : (b.map fun b => if false then !b else b) = b := by
    cases b <;> rfl
  rw [between, hkeep, isTrue_map_ofBool, and3_eq_some_true]
  rfl

/-- A comparison is true exactly if the values compare so, and none of them is missing. -/
theorem isTrue_binary {op : BinaryOp} (hop : isComparison op = true) (v w : Option D) :
    m.isTrue (m.binary op v w) = m.test op v w := by
  cases op with
  | eq | lt | gt | lte | gte => exact m.isTrue_map_ofBool _
  | and | minus | mul | div | concat => exact nomatch hop

/-- A comparison with null is never true. -/
theorem test_none (op : BinaryOp) (w : Option D) : m.test op none w = false := rfl

end Meaning

/-! ## Expressions that rules are made of -/

namespace Rule

variable {D : Type} (m : Meaning D) (row : Row D)

theorem value_grouped (e : Expr) : e.grouped.value m row = e.value m row := by
  cases e <;> rfl

theorem value_compare (op : BinaryOp) (e : Expr) (l : Literal) :
    (compare op e l).value m row = m.binary op (e.value m row) (m.literal l) := by
  unfold compare
  rw [Expr.value, value_grouped]
  rfl

/-- A comparison with a literal is true exactly if the value compares so. -/
theorem isTrue_compare {op : BinaryOp} (hop : Meaning.isComparison op = true) (e : Expr)
    (l : Literal) :
    m.isTrue ((compare op e l).value m row) = m.test op (e.value m row) (m.literal l) := by
  rw [value_compare, m.isTrue_binary hop]

/-- A `CASE` with one branch for each item of a list picks the first item that passes a test. -/
theorem caseValue_map {α : Type} (branch : α → Expr × Expr) (passes : α → Bool)
    (hpasses : ∀ a, m.isTrue ((branch a).1.value m row) = passes a) (otherwise : Option D)
    (items : List α) : caseValue m row otherwise (items.map branch) =
      (items.find? passes).elim otherwise fun a => (branch a).2.value m row := by
  induction items with
  | nil => rfl
  | cons a items ih =>
    have hfirst : caseValue m row otherwise ((a :: items).map branch) =
        if m.isTrue ((branch a).1.value m row) then (branch a).2.value m row
        else caseValue m row otherwise (items.map branch) := rfl
    rw [hfirst, hpasses, ih, List.find?_cons]
    cases passes a <;> rfl

/-! ## Mappings -/

/-- The expression of a mapping has the value that the mapping gives. -/
theorem value_mapped (mapping : List (String × Literal)) (caseSensitive : Bool) (e : Expr) :
    (mapped mapping caseSensitive e).value m row =
      mappedValue m mapping caseSensitive (e.value m row) := by
  cases caseSensitive with
  | true =>
    have hpasses (entry : String × Literal) :
        m.isTrue ((compare .eq e (.string entry.1)).value m row) =
          m.test .eq (e.value m row) (m.string entry.1) := isTrue_compare m row rfl e _
    exact caseValue_map m row (fun entry => (compare .eq e (.string entry.1), lit entry.2)) _
      hpasses (e.value m row) mapping
  | false =>
    have hpasses (entry : String × Literal) :
        m.isTrue (m.binary .eq (folded m false (e.value m row))
          (folded m false (m.string entry.1))) = _ := m.isTrue_binary rfl _ _
    exact caseValue_map m row (fun entry =>
        (.binary (.function "LOWER" [e]) .eq (.function "LOWER" [.str entry.1]), lit entry.2)) _
      hpasses (e.value m row) mapping

/-- A mapping leaves null as it is. -/
theorem mappedValue_none (mapping : List (String × Literal)) {caseSensitive : Bool}
    (h : folded m caseSensitive none = none) : mappedValue m mapping caseSensitive none = none := by
  unfold mappedValue
  dsimp only
  rw [h]
  have hnone : mapping.find? (fun entry =>
      m.test .eq none (folded m caseSensitive (m.string entry.1))) = none := by
    rw [List.find?_eq_none]
    intro entry _
    rw [m.test_none]
    exact Bool.false_ne_true
  rw [hnone]
  rfl

/-! ## Buckets -/

/-- The branch of a bucket. -/
def Bucket.branch (e : Expr) (b : Bucket) : Expr × Expr :=
  (.binary (compare .gte e b.low) .and (compare (if b.closed then .lte else .lt) e b.high),
    lit b.label)

/-- The first two edges and the first label make the first bucket; it is closed if no other
follows. -/
theorem bucketsOf_cons (low high label : Literal) (edges labels : List Literal) :
    bucketsOf (low :: high :: edges) (label :: labels) =
      { low, high, closed := labels.isEmpty, label } :: bucketsOf (high :: edges) labels := by
  unfold bucketsOf
  simp only [List.tail_cons, List.zip_cons_cons, List.mapIdx_cons, List.length_cons]
  -- the indices of the later buckets are counted from their own first label
  congr 1
  · cases labels <;> rfl
  · congr 1
    funext i p
    congr 1
    exact Bool.eq_iff_iff.2 (by simp)

/-- The branches of the expression are those of the buckets, in their order. -/
theorem buckets_eq_map (e : Expr) (edges labels : List Literal) :
    buckets e edges labels = (bucketsOf edges labels).map (Bucket.branch e) := by
  induction labels generalizing edges with
  | nil =>
    have hnone : bucketsOf edges [] = [] := by simp [bucketsOf]
    rw [hnone]
    match edges with
    | [] | [_] | _ :: _ :: _ => rfl
  | cons label labels ih =>
    match edges with
    | [] => rfl
    | [_] => rfl
    | low :: high :: edges =>
      rw [buckets, bucketsOf_cons, ih]
      rfl

/-- The test of a branch is true exactly of what its bucket contains. -/
theorem isTrue_branch (e : Expr) (b : Bucket) :
    m.isTrue ((b.branch e).1.value m row) = b.contains m (e.value m row) := by
  have hupper : Meaning.isComparison (if b.closed then .lte else .lt) = true := by
    cases b.closed <;> rfl
  show m.isTrue (m.binary .and ((compare .gte e b.low).value m row) _) = _
  rw [m.isTrue_and, isTrue_compare m row rfl, isTrue_compare m row hupper]
  rfl

/-- The expression of the buckets has the label of the first bucket that contains the value. -/
theorem value_buckets (e : Expr) (edges labels : List Literal) :
    caseValue m row none (buckets e edges labels) =
      binnedValue m edges labels (e.value m row) := by
  rw [buckets_eq_map, caseValue_map m row _ _ (isTrue_branch m row e)]
  unfold binnedValue
  cases (bucketsOf edges labels).find? fun b => b.contains m (e.value m row) <;> rfl

/-! ## One rule -/

theorem value_truncated (length : Int) (addEllipsis : Bool) (e : Expr) :
    (truncated length addEllipsis e).value m row =
      truncatedValue m length addEllipsis (e.value m row) := by
  cases addEllipsis with
  | false => rfl
  | true =>
    show (if m.isTrue (m.binary .gt (m.function "LENGTH" [e.value m row]) (m.int length)) then _
      else _) = _
    rw [m.isTrue_binary rfl]
    rfl

/-- Clipping bounds a value from below first, then from above. -/
theorem value_clipped (lower upper : Option Literal) (e : Expr) :
    (clipped lower upper e).value m row =
      boundedValue m "LEAST" upper (boundedValue m "GREATEST" lower (e.value m row)) := by
  cases lower <;> cases upper <;> rfl

theorem value_formatted (d : Dialect) (name format : String) (e : Expr) :
    (formatted d name format e).value m row = formattedValue m d name format (e.value m row) := by
  cases d <;> rfl

/-- The expression of a telephone number has the value that its rule gives. -/
theorem value_phoneNumber (d : Dialect) (countryCode : String) (e : Expr) :
    (phoneNumber d countryCode e).value m row = phoneValue m d countryCode (e.value m row) := by
  cases d <;> rfl

/-- What a rule makes of an expression has the value that the rule makes of its value. -/
theorem value_apply (d : Dialect) (e : Expr) {r : Rule} (hlocal : r.IsRowLocal) :
    (r.apply d e).value m row = r.value m d (e.value m row) := by
  cases r with
  | anonymize => cases d <;> rfl
  | convertTimezone source target => cases d <;> rfl
  | toLowercase => rfl
  | toUppercase => rfl
  | strip => rfl
  | roundNumbers decimals => rfl
  | scale factor => exact value_compare m row .mul e factor
  | formatDate format => exact value_formatted m row d "STRFTIME" format e
  | toNumeric => rfl
  | toDatetime format => cases format with
    | none => rfl
    | some format => exact value_formatted m row d "STRPTIME" format e
  | fillNa l => rfl
  | replace oldValue newValue => rfl
  | extract pattern => rfl
  | truncate length addEllipsis => exact value_truncated m row length addEllipsis e
  | pad width side padChar => cases side <;> rfl
  | clip lower upper => exact value_clipped m row lower upper e
  | bin edges labels => exact value_buckets m row e edges labels
  | mapValues mapping => exact value_mapped m row mapping true e
  | rename newName => rfl
  | removeDuplicates columns => rfl
  -- most rules have their value by definition; a condition is true exactly if its comparison is
  | encodeCategorical l =>
    show (if m.isTrue ((compare .eq e l).value m row) then _ else _) = _
    rw [isTrue_compare m row rfl]
    rfl
  | validateEmail => rfl
  | validateDateRange startDate endDate =>
    show keptIf (m.isTrue (m.between (e.grouped.value m row) _ _ false)) _ = _
    rw [value_grouped, m.isTrue_between]
    rfl
  | normalizePhone countryCode => exact value_phoneNumber m row d countryCode e
  | ensurePositive dropNegative => cases dropNegative with
    | false => rfl
    | true =>
      show keptIf (m.isTrue ((compare .gt e (.int 0)).value m row)) _ = _
      rw [isTrue_compare m row rfl]
      rfl
  | standardizeCategories mapping caseSensitive =>
    exact value_mapped m row mapping caseSensitive e
  -- the last three look at other rows or tables
  | normalize => exact absurd rfl hlocal.1
  | standardize => exact absurd rfl hlocal.2.1
  | validateForeignKey table column => exact absurd rfl hlocal.2.2

/-- Rules that are applied in order have their value functions applied in order. -/
theorem value_foldl_apply (d : Dialect) {rules : List Rule} (hlocal : ∀ r ∈ rules, r.IsRowLocal)
    (e : Expr) : (rules.foldl (apply d) e).value m row =
      rules.foldl (Rule.value m d) (e.value m row) := by
  induction rules generalizing e with
  | nil => rfl
  | cons r rules ih =>
    obtain ⟨hr, hrules⟩ := List.forall_mem_cons.1 hlocal
    rw [List.foldl_cons, List.foldl_cons, ih hrules, value_apply m row d e hr]

end Rule

/-- The value of a column after its transformations is obtained from the value of its expression by
the value functions of the transformations that target it, from left to right. A mapping keeps null,
if need be because folding to lower case does. -/
theorem value_applyTransformations {D : Type} (m : Meaning D) (row : Row D) (d : Dialect)
    {transformations : List Transformation} {column : String}
    (hlocal : ∀ t ∈ transformations, t.targets column = true → t.rule.IsRowLocal)
    (asName : Option String) (e : Expr) :
    (applyTransformations d transformations column asName e).expr.value m row =
        (transformations.filter (·.targets column)).foldl
          (fun v t => t.rule.value m d v) (e.value m row) ∧
      (∀ mapping, (Rule.mapValues mapping).value m d none = none) ∧
      (m.function "LOWER" [none] = none → ∀ mapping caseSensitive,
        (Rule.standardizeCategories mapping caseSensitive).value m d none = none) := by
  refine ⟨?_, fun mapping => Rule.mappedValue_none m mapping rfl, ?_⟩
  · -- only the rules of transformations that target the column are applied
    have hrules : ∀ r ∈ (transformations.filter (·.targets column)).map (·.rule),
        r.IsRowLocal := by
      intro r hr
      obtain ⟨t, ht, rfl⟩ := List.mem_map.1 hr
      obtain ⟨hmem, htarget⟩ := List.mem_filter.1 ht
      exact hlocal t hmem htarget
    rw [applyTransformations, Rule.value_foldl_apply m row d hrules, List.foldl_map]
  · intro hlower mapping caseSensitive
    have hfolded : Rule.folded m caseSensitive none = none := by
      cases caseSensitive
      · exact hlower
      · rfl
    exact Rule.mappedValue_none m mapping hfolded

/-- Literals as values, with functions that give their first argument, as `COALESCE` does if it is
not null and `LOWER` does if it is in lower case. -/
def Meaning.ofLiterals : Meaning Literal where
  ofBool := .bool
  ofInt := .int
  ofFloat := .float
  ofString := .string
  holds l := l == .bool true
  holds_ofBool b := by cases b <;> rfl
  compare op a b := op == .eq && a == b
  compute _ _ _ := none
  function _ args := args.head?.join
  cast _ v := v

/-- A text is filled in, mapped to another one without regard to case, and encoded as a number; the
mapping keeps null. -/
theorem value_applyTransformations_encoded :
    let fill : Transformation := ⟨some "x", .fillNa (.string "n"), []⟩
    let standardize : Transformation :=
      ⟨some "X", .standardizeCategories [("a", .string "p"), ("b", .string "q")] false, []⟩
    let encode : Transformation := ⟨some "x", .encodeCategorical (.string "q"), []⟩
    let row : Row Literal := ⟨fun _ _ => some (.string "b"), fun _ => none⟩
    (∀ t ∈ [fill, standardize, encode], t.targets "x" = true → t.rule.IsRowLocal) ∧
      (applyTransformations .duckdb [fill, standardize, encode] "x" none (.col "x")).expr.value
        .ofLiterals row = some (.int 1) ∧
      Meaning.ofLiterals.function "LOWER" [none] = none ∧
      standardize.rule.value .ofLiterals .duckdb none = none := by
  intro fill standardize encode row
  have hlocal : ∀ t ∈ [fill, standardize, encode], t.targets "x" = true → t.rule.IsRowLocal := by
    intro t ht _
    simp only [List.mem_cons, List.not_mem_nil, or_false] at ht
    rcases ht with rfl | rfl | rfl <;> exact ⟨by decide, by decide, by decide⟩
  obtain ⟨hvalue, -, hnull⟩ :=
    value_applyTransformations .ofLiterals row .duckdb hlocal none (.col "x")
  refine ⟨hlocal, ?_, rfl, hnull rfl _ _⟩
  -- a value that is there is not filled; it becomes "q", which is encoded as one
  rw [hvalue]
  decide

end DatasetSql
