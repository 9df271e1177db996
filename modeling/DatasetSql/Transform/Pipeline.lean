import DatasetSql.Transform.Params

/-!
# The transformation pipeline

Each rule turns the expression of a column into another one. The rules that work on a column are
applied in order, and the name of the result follows from the last renaming, the alias given, or
the column itself. Dropping repeated rows is no matter of a column; see `Schema.distinct`.
-/

namespace DatasetSql

open Emit

namespace Rule

/-- What a telephone number is stripped of. -/
def nonDigits : String := "[^0-9]"

/-- The shape of an email address, without backslashes, which mean different things in different
dialects. -/
def emailPattern : String := "^[A-Za-z0-9._%+-]+@[A-Za-z0-9.-]+[.][A-Za-z]\x7b2,\x7d$"

/-- A literal as an expression. -/
def lit (l : Literal) : Expr := .literal l

/-- A comparison of an operand with a literal. -/
def compare (op : BinaryOp) (e : Expr) (l : Literal) : Expr := .binary e.grouped op (lit l)

/-- `CASE WHEN condition THEN e ELSE NULL END` -/
def keepWhen (condition e : Expr) : Expr := .case [(condition, e)] (some .null)

/-- A digest of the text of a value. -/
def anonymized (d : Dialect) (e : Expr) : Expr :=
  let text := Expr.cast e (d.typeName .string)
  match d with
  | .tsql => .function "HASHBYTES" [.str "MD5", text]
  | .oracle => .function "STANDARD_HASH" [text, .str "MD5"]
  | .bigquery => .function "TO_HEX" [.function "MD5" [text]]
  | _ => .function "MD5" [text]

/-- A time of one zone in another. -/
def inTimezone (d : Dialect) (source target : String) (e : Expr) : Expr :=
  match d with
  | .mysql => .function "CONVERT_TZ" [e, .str source, .str target]
  | _ => .function "TIMEZONE" [.str target, .function "TIMEZONE" [.str source, e]]

/-- A function of a date and a format, in the order of the dialect. -/
def formatted (d : Dialect) (name format : String) (e : Expr) : Expr :=
  match d with
  | .bigquery => .function name [.str format, e]
  | _ => .function name [e, .str format]

/-- The first characters of a text; an ellipsis shows that something was cut. -/
def truncated (length : Int) (addEllipsis : Bool) (e : Expr) : Expr :=
  let cut := Expr.function "SUBSTR" [e, .int 1, .int length]
  if addEllipsis then
    .case [(.binary (.function "LENGTH" [e]) .gt (.int length), .binary cut .concat (.str "..."))]
      (some e)
  else cut

/-- A number forced between bounds. -/
def clipped (lower upper : Option Literal) (e : Expr) : Expr :=
  let floored := match lower with
    | some lo => Expr.function "GREATEST" [e, lit lo]
    | none => e
  match upper with
  | some hi => .function "LEAST" [floored, lit hi]
  | none => floored

/-- The branches of a binning. A bucket contains its lower edge; only the last contains its upper
one. -/
def buckets (e : Expr) : List Literal → List Literal → List (Expr × Expr)
  | low :: high :: edges, label :: labels =>
    let upper := compare (if labels.isEmpty then .lte else .lt) e high
    (.binary (compare .gte e low) .and upper, lit label) :: buckets e (high :: edges) labels
  | _, _ => []

/-- An aggregate over all rows. -/
def overall (name : String) (e : Expr) : Expr := .overAll (.function name [e])

/-- A quotient that is null instead of infinite. -/
def quotient (e shift divisor : Expr) : Expr :=
  .binary (.paren (.binary e.grouped .minus shift)) .div (.function "NULLIF" [divisor, .int 0])

/-- A value that is replaced by the literal of its key. -/
def mapped (mapping : List (String × Literal)) (caseSensitive : Bool) (e : Expr) : Expr :=
  let branches := mapping.map fun (key, value) =>
    if caseSensitive then (Expr.binary e.grouped .eq (.str key), lit value)
    else (.binary (.function "LOWER" [e]) .eq (.function "LOWER" [.str key]), lit value)
  .case branches (some e)

/-- The digits of a telephone number after its country code. Only some dialects have to be told to
replace every match. -/
def phoneNumber (d : Dialect) (countryCode : String) (e : Expr) : Expr :=
  let all := if d = .duckdb ∨ d = .postgres then [Expr.str "g"] else []
  .binary (.str countryCode) .concat
    (.function "REGEXP_REPLACE" ([e, .str nonDigits, .str ""] ++ all))

/-- The query that reads a column of another table. -/
def lookup (table column : String) : Query :=
  let ref : TableRef := match Text.splitOnce '.' table with
    | some (qualifier, table) => ⟨some qualifier, table⟩
    | none => ⟨none, table⟩
  .ofSource [(.col column, none)] (.table ref) []

/-- What a rule makes of an expression. -/
def apply (d : Dialect) (e : Expr) : Rule → Expr
  | .anonymize => anonymized d e
  | .convertTimezone source target => inTimezone d source target e
  | .toLowercase => .function "LOWER" [e]
  | .toUppercase => .function "UPPER" [e]
  | .strip => .function "TRIM" [e]
  | .roundNumbers decimals => .function "ROUND" [e, .int decimals]
  | .scale factor => .paren (compare .mul e factor)
  | .formatDate format => formatted d "STRFTIME" format e
  | .toNumeric => .cast e (d.typeName .float)
  | .toDatetime none => .cast e (d.typeName .datetime)
  | .toDatetime (some format) => formatted d "STRPTIME" format e
  | .fillNa value => .function "COALESCE" [e, lit value]
  | .replace oldValue newValue => .function "REPLACE" [e, .str oldValue, .str newValue]
  | .extract pattern => .function "REGEXP_EXTRACT" [e, .str pattern]
  | .truncate length addEllipsis => truncated length addEllipsis e
  | .pad width side padChar =>
    .function (if side = .left then "LPAD" else "RPAD") [e, .int width, .str padChar]
  | .clip lower upper => clipped lower upper e
  | .bin edges labels => .case (buckets e edges labels) none
  | .normalize => quotient e (overall "MIN" e) (.binary (overall "MAX" e) .minus (overall "MIN" e))
  | .standardize => quotient e (overall "AVG" e) (overall "STDDEV" e)
  | .mapValues mapping => mapped mapping true e
  | .rename _ | .removeDuplicates _ => e
  | .encodeCategorical value => .case [(compare .eq e value, .int 1)] (some (.int 0))
  | .validateEmail => keepWhen (.function "REGEXP_MATCHES" [e, .str emailPattern]) e
  | .validateDateRange startDate endDate =>
    keepWhen (.between e.grouped (.str startDate) (.str endDate) false) e
  | .normalizePhone countryCode => phoneNumber d countryCode e
  | .validateForeignKey table column =>
    keepWhen (.inSubquery e.grouped (lookup table column) false) e
  | .ensurePositive dropNegative =>
    if dropNegative then keepWhen (.binary e.grouped .gt (.int 0)) e else .function "ABS" [e]
  | .standardizeCategories mapping caseSensitive => mapped mapping caseSensitive e

/-- The name that a rule gives to a column. -/
def newName? : Rule → Option String
  | .rename name => some name
  | _ => none

end Rule

/-- An expression of a column with the name of the result. -/
structure TransformedColumn where
  expr : Expr
  asName : Option String

/-- Applies the transformations that work on a column. The last renaming names the result; else the
alias given; else, if anything was applied, the folded column name. -/
def applyTransformations (d : Dialect) (transformations : List Transformation) (column : String)
    (asName : Option String) (e : Expr) : TransformedColumn :=
  let rules := (transformations.filter (·.targets column)).map (·.rule)
  let renamed := (rules.filterMap Rule.newName?).getLast?
  let own := if rules.isEmpty then none else some (d.foldIdentifier column)
  { expr := rules.foldl (Rule.apply d) e
    asName := (renamed.or asName).or own }

end DatasetSql
