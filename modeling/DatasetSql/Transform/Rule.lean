import DatasetSql.Emit.Query

/-!
# Transformation rules

The closed catalog of what may be done to a column, and the checked form of each kind with the
parameters it has.
-/

namespace DatasetSql

/-- A kind of transformation. -/
inductive TransformationKind where
  | anonymize
  | convertTimezone
  | toLowercase
  | toUppercase
  | strip
  | roundNumbers
  | scale
  | formatDate
  | toNumeric
  | toDatetime
  | fillNa
  | replace
  | extract
  | truncate
  | pad
  | clip
  | bin
  | normalize
  | standardize
  | mapValues
  | rename
  | encodeCategorical
  | validateEmail
  | validateDateRange
  | normalizePhone
  | removeDuplicates
  | validateForeignKey
  | ensurePositive
  | standardizeCategories
deriving DecidableEq, Repr

namespace TransformationKind

/-- Every kind. -/
def all : List TransformationKind :=
  [.anonymize, .convertTimezone, .toLowercase, .toUppercase, .strip, .roundNumbers, .scale,
    .formatDate, .toNumeric, .toDatetime, .fillNa, .replace, .extract, .truncate, .pad, .clip, .bin,
    .normalize, .standardize, .mapValues, .rename, .encodeCategorical, .validateEmail,
    .validateDateRange, .normalizePhone, .removeDuplicates, .validateForeignKey, .ensurePositive,
    .standardizeCategories]

/-- The name of a kind in a document. -/
def name : TransformationKind → String
  | .anonymize => "anonymize"
  | .convertTimezone => "convert_timezone"
  | .toLowercase => "to_lowercase"
  | .toUppercase => "to_uppercase"
  | .strip => "strip"
  | .roundNumbers => "round_numbers"
  | .scale => "scale"
  | .formatDate => "format_date"
  | .toNumeric => "to_numeric"
  | .toDatetime => "to_datetime"
  | .fillNa => "fill_na"
  | .replace => "replace"
  | .extract => "extract"
  | .truncate => "truncate"
  | .pad => "pad"
  | .clip => "clip"
  | .bin => "bin"
  | .normalize => "normalize"
  | .standardize => "standardize"
  | .mapValues => "map_values"
  | .rename => "rename"
  | .encodeCategorical => "encode_categorical"
  | .validateEmail => "validate_email"
  | .validateDateRange => "validate_date_range"
  | .normalizePhone => "normalize_phone"
  | .removeDuplicates => "remove_duplicates"
  | .validateForeignKey => "validate_foreign_key"
  | .ensurePositive => "ensure_positive"
  | .standardizeCategories => "standardize_categories"

/-- The kind with exactly this name. -/
def ofName? (text : String) : Option TransformationKind := all.find? (·.name == text)

/-- Whether a kind works on a named column. -/
def requiresColumn (k : TransformationKind) : Bool := k != .removeDuplicates

end TransformationKind

/-- The side on which a text is padded. -/
inductive PadSide where
  | left
  | right
deriving DecidableEq, Repr

open Emit (Literal) in
/-- A transformation with checked parameters. -/
inductive Rule where
  | anonymize
  | convertTimezone (source target : String)
  | toLowercase
  | toUppercase
  | strip
  | roundNumbers (decimals : Int)
  | scale (factor : Literal)
  | formatDate (format : String)
  | toNumeric
  | toDatetime (format : Option String)
  | fillNa (value : Literal)
  | replace (oldValue newValue : String)
  | extract (pattern : String)
  | truncate (length : Int) (addEllipsis : Bool)
  | pad (width : Int) (side : PadSide) (padChar : String)
  | clip (lower upper : Option Literal)
  | bin (edges labels : List Literal)
  | normalize
  | standardize
  | mapValues (mapping : List (String × Literal))
  | rename (newName : String)
  | encodeCategorical (value : Literal)
  | validateEmail
  | validateDateRange (startDate endDate : String)
  | normalizePhone (countryCode : String)
  | removeDuplicates (columns : List String)
  | validateForeignKey (refTable refColumn : String)
  | ensurePositive (dropNegative : Bool)
  | standardizeCategories (mapping : List (String × Literal)) (caseSensitive : Bool)
deriving DecidableEq, Repr

/-- The kind of a rule. -/
def Rule.kind : Rule → TransformationKind
  | .anonymize => .anonymize
  | .convertTimezone .. => .convertTimezone
  | .toLowercase => .toLowercase
  | .toUppercase => .toUppercase
  | .strip => .strip
  | .roundNumbers .. => .roundNumbers
  | .scale .. => .scale
  | .formatDate .. => .formatDate
  | .toNumeric => .toNumeric
  | .toDatetime .. => .toDatetime
  | .fillNa .. => .fillNa
  | .replace .. => .replace
  | .extract .. => .extract
  | .truncate .. => .truncate
  | .pad .. => .pad
  | .clip .. => .clip
  | .bin .. => .bin
  | .normalize => .normalize
  | .standardize => .standardize
  | .mapValues .. => .mapValues
  | .rename .. => .rename
  | .encodeCategorical .. => .encodeCategorical
  | .validateEmail => .validateEmail
  | .validateDateRange .. => .validateDateRange
  | .normalizePhone .. => .normalizePhone
  | .removeDuplicates .. => .removeDuplicates
  | .validateForeignKey .. => .validateForeignKey
  | .ensurePositive .. => .ensurePositive
  | .standardizeCategories .. => .standardizeCategories

end DatasetSql
