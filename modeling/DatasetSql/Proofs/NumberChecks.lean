import DatasetSql.Proofs.Outcome
import DatasetSql.Transform.Params

/-!
# Checked numbers

What is known of the edges of a binning and of the bounds of a clipping once their parameters were
accepted. The checks compare numbers as doubles.
-/

namespace DatasetSql.Params

open Emit (Literal)
open Json (Value)

variable {p : Params} {name : String}

/-- A parameter becomes a literal exactly as its scalar does. -/
theorem literal_eq_ok {v : Value} {l : Literal} (h : p.literal name v = .ok l) :
    scalarLiteral v = .ok l := by
  unfold literal at h
  split at h
  next l' hl' =>
    cases h
    exact hl'
  next => exact nomatch h

/-- The edges are at least two numbers, each below the next. -/
theorem edges_eq_ok {edges : List Literal} (h : p.edges = .ok edges) :
    (∀ l ∈ edges, ∃ n, scalarLiteral (.number n) = .ok l) ∧ 1 < edges.length ∧
      ascending edges = true := by
  obtain ⟨v, -, h⟩ := bind_eq_ok.1 h
  cases v with
  | array items =>
    obtain ⟨read, hread, h⟩ := bind_eq_ok.1 h
    obtain ⟨hlength, h⟩ := guard_eq_ok.1 h
    obtain ⟨hascending, h⟩ := guard_eq_ok.1 h
    cases h
    refine ⟨fun l hl => ?_, by omega, by simpa using hascending⟩
    obtain ⟨v, -, hv⟩ := (mem_of_mapM_eq_ok hread).1 hl
    cases v with
    | number n => exact ⟨n, literal_eq_ok hv⟩
    | null | bool | string | array | object => exact nomatch hv
  | null | bool | number | string | object => exact nomatch h

/-- A binning has edges, and one label for each bucket between two of them. -/
theorem binRule_eq_ok {r : Rule} (h : p.binRule = .ok r) :
    ∃ edges labels : List Literal, r = .bin edges labels ∧ p.edges = .ok edges ∧
      (∀ l ∈ labels, ∃ v, scalarLiteral v = .ok l) ∧ edges.length = labels.length + 1 := by
  obtain ⟨edges, hedges, h⟩ := bind_eq_ok.1 h
  obtain ⟨v, -, h⟩ := bind_eq_ok.1 h
  cases v with
  | array items =>
    obtain ⟨labels, hlabels, h⟩ := bind_eq_ok.1 h
    obtain ⟨hlength, h⟩ := guard_eq_ok.1 h
    cases h
    obtain ⟨-, htwo, -⟩ := edges_eq_ok hedges
    refine ⟨edges, labels, rfl, hedges, fun l hl => ?_, by omega⟩
    obtain ⟨v, -, hv⟩ := (mem_of_mapM_eq_ok hlabels).1 hl
    exact ⟨v, literal_eq_ok hv⟩
  | null | bool | number | string | object => exact nomatch h

/-- A clipping has a bound; if it has two, the upper one is not below the lower one. -/
theorem clipRule_eq_ok {r : Rule} (h : p.clipRule = .ok r) :
    ∃ lower upper : Option Literal, r = .clip lower upper ∧
      p.optionalNumber "lower" = .ok lower ∧ p.optionalNumber "upper" = .ok upper ∧
      (lower.isSome ∨ upper.isSome) ∧
      ∀ lo ∈ lower, ∀ hi ∈ upper, numericLt hi lo = false := by
  obtain ⟨lower, hlower, h⟩ := bind_eq_ok.1 h
  obtain ⟨upper, hupper, h⟩ := bind_eq_ok.1 h
  -- bounds are compared only if both are given
  match lower, upper with
  | none, none => exact nomatch h
  | some lo, some hi =>
    obtain ⟨horder, h⟩ := guard_eq_ok.1 h
    cases h
    exact ⟨some lo, some hi, rfl, hlower, hupper, .inl rfl, by simpa using horder⟩
  | none, some hi =>
    cases h
    exact ⟨none, some hi, rfl, hlower, hupper, .inr rfl, fun lo hlo => nomatch hlo⟩
  | some lo, none =>
    cases h
    exact ⟨some lo, none, rfl, hlower, hupper, .inl rfl, fun lo _ hi hhi => nomatch hhi⟩

end DatasetSql.Params
