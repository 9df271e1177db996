import DatasetSql.Proofs.Evaluation
import DatasetSql.Proofs.RoundedOrder

/-!
# Numbers among values

An evaluator may compare numbers exactly, whatever else its values are. `Meaning.Numbers` says that
it does, for numbers of any kind among which the integers keep their order; `Meaning.exact` is one
that does so with the rational numbers.
-/

namespace DatasetSql

open Emit Numeric

/-- How two numbers compare under an operator. -/
def Emit.BinaryOp.relates {N : Type} [LinearOrder N] (op : BinaryOp) (x y : N) : Bool :=
  match op with
  | .eq => decide (x = y)
  | .lt => decide (x < y)
  | .gt => decide (y < x)
  | .lte => decide (x ≤ y)
  | .gte => decide (y ≤ x)
  | .and | .minus | .mul | .div | .concat => false

/-- Numbers among the values of a meaning. Comparisons follow their order, in which integers keep
theirs, and the literal of an integer stands for it. -/
structure Meaning.Numbers {D : Type} (m : Meaning D) (N : Type) [LinearOrder N] where
  value : N → D
  ofInt : Int → N
  ofInt_strictMono : StrictMono ofInt
  value_ofInt : ∀ i, m.ofInt i = value (ofInt i)
  compare_value : ∀ {op}, Meaning.isComparison op = true → ∀ x y,
    m.compare op (value x) (value y) = op.relates x y

/-- Rational numbers and texts as values, compared exactly; the greater and the smaller of two
numbers are functions of them. -/
def Meaning.exact : Meaning (ℚ ⊕ String) where
  ofBool b := .inl (if b then 1 else 0)
  ofInt i := .inl i
  ofFloat
    | .finite x => .inl x.value
    | .infinite _ | .nan => .inr ""
  ofString := .inr
  holds v := v == .inl 1
  holds_ofBool b := by cases b <;> rfl
  compare op
    | .inl x, .inl y => op.relates x y
    | _, _ => false
  compute _ _ _ := none
  function name
    | [some (.inl x), some (.inl y)] =>
      if name = "GREATEST" then some (.inl (max x y))
      else if name = "LEAST" then some (.inl (min x y))
      else none
    | _ => none
  cast _ v := v

/-- The rational numbers among them. -/
def Meaning.exactNumbers : Meaning.exact.Numbers ℚ where
  value := .inl
  ofInt i := i
  ofInt_strictMono := Int.cast_strictMono
  value_ofInt _ := rfl
  compare_value _ _ _ := rfl

end DatasetSql
