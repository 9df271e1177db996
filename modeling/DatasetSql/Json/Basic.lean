import DatasetSql.Numeric.Shortest

/-!
# JSON values

Objects keep the order in which their keys first appeared, and a repeated key keeps its first
place and its last value. `Data` is what a document reader has seen before it decides what to do
with it: it keeps repeated keys, and a leaf that cannot be represented is only an error if someone
asks for it. Documents of other formats are seen the same way.
-/

namespace DatasetSql.Json

open DatasetSql.Numeric

/-- A number: an integer in the range of 64-bit words, signed or unsigned, or a double. -/
inductive Number where
  | int (value : Int)
  | float (value : Double)
deriving DecidableEq, Repr

/-- A JSON value. -/
inductive Value where
  | null
  | bool (value : Bool)
  | number (value : Number)
  | string (value : String)
  | array (items : List Value)
  | object (entries : List (String × Value))
deriving Repr, Inhabited

/-- A document as it was read. -/
inductive Data where
  | null
  | bool (value : Bool)
  | number (value : Option Number)
  /-- A number that is not finite; it stands for null where a value is wanted. -/
  | nonFinite
  | text (value : Option String)
  | list (items : List Data)
  | record (fields : List (Option String × Data))
deriving Repr, Inhabited

/-- The number as a signed 64-bit integer. -/
def Number.int64? : Number → Option Int
  | .int i => if i < signedBound then some i else none
  | .float _ => none

/-- The number as an unsigned 64-bit integer. -/
def Number.nat? : Number → Option Nat
  | .int i => if 0 ≤ i then some i.toNat else none
  | .float _ => none

/-- The number as a double. -/
def Number.double : Number → Double
  | .int i => .ofInt i
  | .float x => x

/-- Numerical equality within one kind of number. -/
def Number.same : Number → Number → Bool
  | .int i, .int j => i == j
  | .float x, .float y => x.same y
  | _, _ => false

/-- Sets the value of a key: in place if the key is there, at the end otherwise. -/
def put {α : Type} (key : String) (value : α) : List (String × α) → List (String × α)
  | [] => [(key, value)]
  | (k, v) :: rest => if k == key then (k, value) :: rest else (k, v) :: put key value rest

/-- The entries with each key at its first place and with its last value. -/
def ofPairs {α : Type} (pairs : List (String × α)) : List (String × α) :=
  pairs.foldl (fun entries p => put p.1 p.2 entries) []

/-- The value of a field, for an object. -/
def Value.get? (key : String) : Value → Option Value
  | .object entries => entries.lookup key
  | _ => none

mutual

/-- Equality of values; the order of an object's keys is not compared. -/
def Value.same : Value → Value → Bool
  | .null, .null => true
  | .bool a, .bool b => a == b
  | .number a, .number b => a.same b
  | .string a, .string b => a == b
  | .array xs, .array ys => sameItems xs ys
  | .object xs, .object ys => xs.length == ys.length && sameEntries xs ys
  | _, _ => false

/-- Equality of lists of values. -/
def sameItems : List Value → List Value → Bool
  | [], [] => true
  | x :: xs, y :: ys => x.same y && sameItems xs ys
  | _, _ => false

/-- Whether every entry is found among the others with an equal value. -/
def sameEntries : List (String × Value) → List (String × Value) → Bool
  | [], _ => true
  | (k, v) :: xs, ys =>
    (match ys.lookup k with
      | some w => v.same w
      | none => false) && sameEntries xs ys

end

mutual

/-- A value seen as a document. -/
def Value.data : Value → Data
  | .null => .null
  | .bool b => .bool b
  | .number n => .number (some n)
  | .string s => .text (some s)
  | .array xs => .list (dataItems xs)
  | .object es => .record (dataFields es)

/-- The items of an array as documents. -/
def dataItems : List Value → List Data
  | [] => []
  | x :: xs => x.data :: dataItems xs

/-- The entries of an object as documents. -/
def dataFields : List (String × Value) → List (Option String × Data)
  | [] => []
  | (k, v) :: es => (some k, v.data) :: dataFields es

end

mutual

/-- The value of a document in which every leaf can be represented and no more arrays and objects
are nested than the limit says, if there is one. -/
def Data.value? (limit : Option Nat) : Data → Option Value
  | .null => some .null
  | .bool b => some (.bool b)
  | .number n => n.map .number
  | .nonFinite => some .null
  | .text s => s.map .string
  | .list xs =>
    if limit = some 0 then none else (valueItems? (limit.map (· - 1)) xs).map .array
  | .record fs =>
    if limit = some 0 then none
    else (valueFields? (limit.map (· - 1)) fs).map fun pairs => .object (ofPairs pairs)

/-- The values of a list of documents. -/
def valueItems? (limit : Option Nat) : List Data → Option (List Value)
  | [] => some []
  | x :: xs => do return (← x.value? limit) :: (← valueItems? limit xs)

/-- The keys and values of a list of fields. -/
def valueFields? (limit : Option Nat) :
    List (Option String × Data) → Option (List (String × Value))
  | [] => some []
  | (k, x) :: fs => do return (← k, ← x.value? limit) :: (← valueFields? limit fs)

end

end DatasetSql.Json
