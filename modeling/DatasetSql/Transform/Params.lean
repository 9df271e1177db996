import DatasetSql.Json.Writer
import DatasetSql.Schema.Error

/-!
# Reading transformations

A transformation is written as the name of its kind and an object of parameters. Both are checked
once and turned into a `Rule`; the parameters are kept as they were written.
-/

namespace DatasetSql

open Json (Value)
open Emit (Literal)
open Numeric

/-- What kind of JSON value something is, in a message. -/
def typePhrase : Value → String
  | .null => "null"
  | .bool _ => "a boolean"
  | .number _ => "a number"
  | .string _ => "a string"
  | .array _ => "an array"
  | .object _ => "an object"

/-- A JSON scalar as a literal; integers beyond the signed range become doubles. -/
def scalarLiteral : Value → Except String Literal
  | .null => .ok .null
  | .bool b => .ok (.bool b)
  | .number n =>
    match n.int64? with
    | some i => .ok (.int i)
    | none => .ok (.float (.finite n.double))
  | .string s => .ok (.string s)
  | v => .error ("expected a scalar value, got " ++ typePhrase v)

/-- The double nearest to a number; other literals have none. -/
def numericValue? : Literal → Option Double
  | .int i => some (.ofInt i)
  | .float (.finite x) => some x
  | _ => none

/-- Whether one number is below another, both taken as doubles. -/
def numericLt (a b : Literal) : Bool :=
  match numericValue? a, numericValue? b with
  | some x, some y => x.lt y
  | _, _ => false

/-- The kind and the parameters of a transformation. -/
structure Params where
  kind : TransformationKind
  entries : List (String × Value)

namespace Params

/-- What a reader of parameters gives. -/
abbrev Result := Except SchemaError

/-- An error about a parameter. -/
def invalid {α : Type} (p : Params) (param message : String) : Result α :=
  .error (.invalidParams p.kind param message)

/-- A parameter that is there and not null. -/
def present (p : Params) (name : String) : Option Value :=
  match p.entries.lookup name with
  | some .null => none
  | v => v

/-- A parameter that must be there. -/
def required (p : Params) (name : String) : Result Value :=
  match p.present name with
  | some v => .ok v
  | none => p.invalid name "is required"

/-- A string that may be left out. -/
def optionalString (p : Params) (name : String) : Result (Option String) :=
  match p.present name with
  | none => .ok none
  | some (.string s) => .ok (some s)
  | some v => p.invalid name ("expected a string, got " ++ typePhrase v)

/-- A string that must be there. -/
def requiredString (p : Params) (name : String) : Result String := do
  match ← p.required name with
  | .string s => return s
  | v => p.invalid name ("expected a string, got " ++ typePhrase v)

/-- A truth value, with what it is if left out. -/
def optionalBool (p : Params) (name : String) (default : Bool) : Result Bool :=
  match p.present name with
  | none => .ok default
  | some (.bool b) => .ok b
  | some v => p.invalid name ("expected a boolean, got " ++ typePhrase v)

/-- A signed 64-bit integer that may be left out. -/
def optionalInt (p : Params) (name : String) : Result (Option Int) :=
  match p.present name with
  | none => .ok none
  | some v =>
    let i? := match v with
      | .number n => n.int64?
      | _ => none
    match i? with
    | some i => .ok (some i)
    | none => p.invalid name ("expected an integer, got " ++ v.compact)

/-- A positive integer that must be there. -/
def positiveInt (p : Params) (name : String) : Result Int := do
  match ← p.optionalInt name with
  | some i => if 0 < i then return i else p.invalid name ("must be positive, got " ++ toString i)
  | none => p.invalid name "is required"

/-- A literal, or an error about a parameter. -/
def literal (p : Params) (name : String) (v : Value) : Result Literal :=
  match scalarLiteral v with
  | .ok l => .ok l
  | .error message => p.invalid name message

/-- A number that may be left out. -/
def optionalNumber (p : Params) (name : String) : Result (Option Literal) :=
  match p.present name with
  | none => .ok none
  | some v@(.number _) => some <$> p.literal name v
  | some v => p.invalid name ("expected a number, got " ++ typePhrase v)

/-- A number that must be there. -/
def requiredNumber (p : Params) (name : String) : Result Literal := do
  match ← p.optionalNumber name with
  | some l => return l
  | none => p.invalid name "is required"

/-- A scalar that must be there; null is one. -/
def requiredScalar (p : Params) (name : String) : Result Literal :=
  match p.entries.lookup name with
  | some v => p.literal name v
  | none => p.invalid name "is required"

/-- An entry of a mapping. -/
def mappingEntry (p : Params) (name : String) (entry : String × Value) :
    Result (String × Literal) :=
  match scalarLiteral entry.2 with
  | .ok l => .ok (entry.1, l)
  | .error message => p.invalid name ("entry '" ++ entry.1 ++ "' " ++ message)

/-- A mapping with at least one entry. -/
def requiredMapping (p : Params) (name : String) : Result (List (String × Literal)) := do
  match ← p.required name with
  | .object entries =>
    if entries.isEmpty then p.invalid name "must not be empty"
    else entries.mapM (p.mappingEntry name)
  | _ => p.invalid name "expected an object"

/-- A list of strings, empty if left out. -/
def optionalStrings (p : Params) (name : String) : Result (List String) :=
  match p.present name with
  | none => .ok []
  | some (.array items) =>
    items.mapM fun
      | .string s => .ok s
      | _ => p.invalid name "expected a list of strings"
  | some _ => p.invalid name "expected a list of strings"

/-! ## Rules -/

/-- The side of a padding, left if not given. -/
def side (p : Params) : Result PadSide := do
  match ← p.optionalString "side" with
  | none | some "left" => return .left
  | some "right" => return .right
  | some other => p.invalid "side" ("expected 'left' or 'right', got '" ++ other ++ "'")

/-- The rule of a padding. -/
def padRule (p : Params) : Result Rule := do
  let side ← p.side
  let padChar := (← p.optionalString "pad_char").getD " "
  if padChar.isEmpty then p.invalid "pad_char" "must not be empty"
  else return .pad (← p.positiveInt "width") side padChar

/-- The rule of a clipping; the lower bound may not be above the upper one. -/
def clipRule (p : Params) : Result Rule := do
  let lower ← p.optionalNumber "lower"
  let upper ← p.optionalNumber "upper"
  match lower, upper with
  | none, none => p.invalid "lower" "at least one of lower or upper is required"
  | some lo, some hi =>
    if numericLt hi lo then p.invalid "lower" "must not exceed upper"
    else return .clip lower upper
  | _, _ => return .clip lower upper

/-- Whether each number is below the one after it. -/
def ascending : List Literal → Bool
  | a :: b :: rest => numericLt a b && ascending (b :: rest)
  | _ => true

/-- The edges of buckets. -/
def edges (p : Params) : Result (List Literal) := do
  match ← p.required "bins" with
  | .array items =>
    let edges ← items.mapM fun v =>
      match v with
      | .number _ => p.literal "bins" v
      | _ => p.invalid "bins" "expected a list of numbers"
    if edges.length < 2 then p.invalid "bins" "needs at least two edges"
    else if !ascending edges then p.invalid "bins" "edges must be strictly ascending"
    else return edges
  | _ => p.invalid "bins" "expected a list of numbers"

/-- The rule of a binning: one label for each bucket between two edges. -/
def binRule (p : Params) : Result Rule := do
  let edges ← p.edges
  match ← p.required "labels" with
  | .array items =>
    let labels ← items.mapM (p.literal "labels")
    let buckets := edges.length - 1
    if labels.length ≠ buckets then
      p.invalid "labels"
        ("expected " ++ toString buckets ++ " labels for " ++ toString edges.length ++
          " bin edges, got " ++ toString labels.length)
    else return .bin edges labels
  | _ => p.invalid "labels" "expected a list"

/-- The rule of a renaming. -/
def renameRule (p : Params) : Result Rule := do
  let newName ← p.requiredString "new_name"
  if Text.isBlankText newName then p.invalid "new_name" "must not be empty"
  else return .rename newName

/-- The rule of a transformation. -/
def rule (p : Params) : Result Rule := do
  match p.kind with
  | .anonymize => return .anonymize
  | .convertTimezone =>
    return .convertTimezone (← p.requiredString "from") (← p.requiredString "to")
  | .toLowercase => return .toLowercase
  | .toUppercase => return .toUppercase
  | .strip => return .strip
  | .roundNumbers => return .roundNumbers ((← p.optionalInt "decimals").getD 0)
  | .scale => return .scale (← p.requiredNumber "factor")
  | .formatDate => return .formatDate (← p.requiredString "format")
  | .toNumeric => return .toNumeric
  | .toDatetime => return .toDatetime (← p.optionalString "format")
  | .fillNa => return .fillNa (← p.requiredScalar "value")
  | .replace => return .replace (← p.requiredString "old_value") (← p.requiredString "new_value")
  | .extract => return .extract (← p.requiredString "pattern")
  | .truncate =>
    return .truncate (← p.positiveInt "length") (← p.optionalBool "add_ellipsis" false)
  | .pad => p.padRule
  | .clip => p.clipRule
  | .bin => p.binRule
  | .normalize => return .normalize
  | .standardize => return .standardize
  | .mapValues => return .mapValues (← p.requiredMapping "mapping")
  | .rename => p.renameRule
  | .encodeCategorical => return .encodeCategorical (← p.requiredScalar "value")
  | .validateEmail => return .validateEmail
  | .validateDateRange =>
    return .validateDateRange (← p.requiredString "start_date") (← p.requiredString "end_date")
  | .normalizePhone => return .normalizePhone ((← p.optionalString "country_code").getD "+1")
  | .removeDuplicates => return .removeDuplicates (← p.optionalStrings "columns")
  | .validateForeignKey =>
    return .validateForeignKey (← p.requiredString "ref_table") (← p.requiredString "ref_column")
  | .ensurePositive => return .ensurePositive (← p.optionalBool "drop_negative" false)
  | .standardizeCategories =>
    return .standardizeCategories (← p.requiredMapping "mapping")
      (← p.optionalBool "case_sensitive" false)

/-- The column that a transformation works on. -/
def column (p : Params) : Result (Option String) := do
  let column ←
    if p.kind.requiresColumn then some <$> p.requiredString "column" else p.optionalString "column"
  if column.any Text.isBlankText then p.invalid "column" "must not be empty" else return column

end Params

/-- A transformation of a schema: the column it works on, its rule, and the parameters it was
written with. -/
structure Transformation where
  column : Option String
  rule : Rule
  params : List (String × Value)

namespace Transformation

/-- The transformation with a kind and a JSON value for parameters. -/
def ofKind (kind : TransformationKind) (params : Value) : Except SchemaError Transformation := do
  let entries ← match params with
    | .object entries => pure entries
    | .null => pure []
    | v =>
      throw (SchemaError.invalidParams kind "params" ("expected an object, got " ++ typePhrase v))
  let p : Params := ⟨kind, entries⟩
  return { column := ← p.column, rule := ← p.rule, params := entries }

/-- The transformation with the name of a kind and a JSON value for parameters. -/
def read (name : String) (params : Value) : Except SchemaError Transformation := do
  ofKind (← TransformationKind.read name) params

/-- The kind of a transformation. -/
def kind (t : Transformation) : TransformationKind := t.rule.kind

/-- Whether a transformation works on a column, up to ASCII case. -/
def targets (t : Transformation) (column : String) : Bool :=
  t.column.any (Text.eqIgnoreCase · column)

/-- Equality of transformations; the order of parameters is not compared. -/
def same (a b : Transformation) : Bool :=
  a.column == b.column && a.rule == b.rule &&
    Value.same (.object a.params) (.object b.params)

end Transformation

end DatasetSql
