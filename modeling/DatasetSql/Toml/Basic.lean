import DatasetSql.Json.Basic

/-!
# TOML values

What a TOML document holds. Tables have no order: seen as data, their keys stand in the order of
their texts.
-/

namespace DatasetSql.Toml

open DatasetSql.Numeric
open Json (Data)

/-- A TOML value. A moment in time is kept as its text. -/
inductive Value where
  | string (value : String)
  | integer (value : Int)
  | float (value : FloatValue)
  | boolean (value : Bool)
  | datetime (text : String)
  | array (items : List Value)
  | table (entries : List (String × Value))
deriving Repr, Inhabited

/-- The entries of a table. -/
abbrev Table := List (String × Value)

/-- The only key of the record that stands for a moment in time. -/
def datetimeKey : String := "$__toml_private_datetime"

/-- An integer as data; one that no 64-bit word holds is an empty leaf. -/
def integerData (i : Int) : Data :=
  .number (if -(signedBound : Int) ≤ i ∧ i < wordCount then some (.int i) else none)

/-- A number with a fraction as data. -/
def floatData : FloatValue → Data
  | .finite x => .number (some (.float x))
  | .infinite _ | .nan => .nonFinite

/-- Puts a field before the first one with a greater key. -/
def insertField (key : String) (value : Data) :
    List (Option String × Data) → List (Option String × Data)
  | [] => [(some key, value)]
  | (k, v) :: rest =>
    if k.any (key < ·) then (some key, value) :: (k, v) :: rest
    else (k, v) :: insertField key value rest

mutual

/-- A value seen as data. -/
def Value.data : Value → Data
  | .string s => .text (some s)
  | .integer i => integerData i
  | .float x => floatData x
  | .boolean b => .bool b
  | .datetime text => .record [(some datetimeKey, .text (some text))]
  | .array items => .list (dataItems items)
  | .table entries => .record (dataEntries entries)

/-- The items of an array as data. -/
def dataItems : List Value → List Data
  | [] => []
  | x :: xs => x.data :: dataItems xs

/-- The entries of a table as data, by key. -/
def dataEntries : List (String × Value) → List (Option String × Data)
  | [] => []
  | (k, v) :: es => insertField k v.data (dataEntries es)

end

end DatasetSql.Toml
