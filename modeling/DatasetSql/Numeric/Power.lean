/-!
# Powers and word sizes

The powers that number formats are built from, and the bounds of the machine words that documents
and statements can hold.
-/

namespace DatasetSql.Numeric

/-- A power of two. -/
def pow2 (n : Nat) : Nat := Nat.pow 2 n

/-- A power of ten. -/
def pow10 (n : Nat) : Nat := Nat.pow 10 n

/-- How many words of 64 bits there are; the unsigned ones lie below. -/
def wordCount : Nat := pow2 64

/-- The bound of signed words of 64 bits: they lie below it and not below its opposite. -/
def signedBound : Nat := pow2 63

end DatasetSql.Numeric
