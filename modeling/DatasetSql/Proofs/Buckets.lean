import DatasetSql.Proofs.ExactNumbers
import DatasetSql.Proofs.NumberChecks
import DatasetSql.Proofs.Persistence

/-!
# Buckets

A binning sorts numbers into the buckets between its edges. The buckets do not overlap and leave no
gap, because the edges are in order; that they are was checked on doubles, but is true of the integers.
-/

namespace DatasetSql

open Emit Numeric

/-! ## Buckets between points -/

namespace Rule

section

variable {N : Type} [LinearOrder N] {points : List N} {i j : Nat} {x : N}

/-- A number lies in a bucket: it is not below the lower edge, and it is below the upper edge or, in
the last bucket, not above it. -/
def LiesIn (points : List N) (i : Nat) (x : N) : Prop :=
  ∃ low high, points[i]? = some low ∧ points[i + 1]? = some high ∧ low ≤ x ∧
    (x < high ∨ i + 2 = points.length ∧ x ≤ high)

theorem liesIn_succ {p : N} : LiesIn (p :: points) (i + 1) x ↔ LiesIn points i x := by
  have hlast : i + 1 + 2 = (p :: points).length ↔ i + 2 = points.length := by
    rw [List.length_cons]
    omega
  unfold LiesIn
  rw [hlast, List.getElem?_cons_succ, List.getElem?_cons_succ]

/-- The first bucket has its lower point and, if no other bucket follows, its upper one. -/
theorem liesIn_zero {low high : N} : LiesIn (low :: high :: points) 0 x ↔
    low ≤ x ∧ (x < high ∨ points = [] ∧ x ≤ high) := by
  have hlast : 0 + 2 = (low :: high :: points).length ↔ points = [] := by
    rw [List.length_cons, List.length_cons, ← List.length_eq_zero_iff]
    omega
  unfold LiesIn
  rw [hlast]
  simp

/-- Points in order are in order wherever they stand. -/
theorem le_of_getElem? (h : points.Pairwise (· < ·)) {a b : N} (hij : i ≤ j)
    (ha : points[i]? = some a) (hb : points[j]? = some b) : a ≤ b := by
  obtain ⟨hi, rfl⟩ := List.getElem?_eq_some_iff.1 ha
  obtain ⟨hj, rfl⟩ := List.getElem?_eq_some_iff.1 hb
  rcases Nat.lt_or_eq_of_le hij with hlt | rfl
  · exact (List.pairwise_iff_getElem.1 h i j hi hj hlt).le
  · exact le_rfl

/-- Between rising points no value lies in two buckets, of which the later one starts where the
earlier one ends or behind it. -/
theorem LiesIn.not_lt (h : points.Pairwise (· < ·)) (hi : LiesIn points i x)
    (hj : LiesIn points j x) : ¬ i < j := by
  intro hlt
  obtain ⟨low, high, -, hhigh, -, hbelow⟩ := hi
  obtain ⟨low', high', hlow', hhigh', habove, -⟩ := hj
  -- the upper edge of the earlier bucket is at most the lower edge of the later one
  have hedge : high ≤ low' := le_of_getElem? h hlt hhigh hlow'
  rcases hbelow with hbelow | ⟨hlast, -⟩
  · exact absurd (hedge.trans habove) (not_le.2 hbelow)
  · obtain ⟨hlength, -⟩ := List.getElem?_eq_some_iff.1 hhigh'
    omega

/-- A number lies in no two buckets. -/
theorem LiesIn.unique (h : points.Pairwise (· < ·)) (hi : LiesIn points i x)
    (hj : LiesIn points j x) : i = j := by
  have hle := hi.not_lt h hj
  have hge := hj.not_lt h hi
  omega

/-- The buckets cover what lies between the first point and the last one. -/
theorem exists_liesIn_cons_iff {low high : N} (h : (low :: high :: points).Pairwise (· < ·)) :
    (∃ i, LiesIn (low :: high :: points) i x) ↔
      low ≤ x ∧ x ≤ (high :: points).getLast (List.cons_ne_nil _ _) := by
  induction points generalizing low high with
  | nil =>
    rw [← Nat.or_exists_add_one, liesIn_zero]
    have hno (i : Nat) : ¬ LiesIn [low, high] (i + 1) x := by
      rw [liesIn_succ]
      rintro ⟨_, _, _, hhigh, _⟩
      exact nomatch hhigh
    simp only [hno, exists_false, or_false, true_and, List.getLast_singleton]
    exact and_congr_right fun _ => or_iff_right_of_imp le_of_lt
  | cons next points ih =>
    obtain ⟨hlow, hrest⟩ := List.pairwise_cons.1 h
    have hlast : high < (next :: points).getLast (List.cons_ne_nil _ _) :=
      (List.pairwise_cons.1 hrest).1 _ (List.getLast_mem _)
    rw [← Nat.or_exists_add_one, liesIn_zero]
    simp only [liesIn_succ]
    rw [ih hrest, List.getLast_cons (List.cons_ne_nil _ _)]
    -- below the second point it is the first bucket, and from there on one of the others
    constructor
    · rintro (⟨habove, hbelow | ⟨hnil, -⟩⟩ | ⟨habove, hbelow⟩)
      · exact ⟨habove, (hbelow.trans hlast).le⟩
      · exact nomatch hnil
      · exact ⟨(hlow high List.mem_cons_self).le.trans habove, hbelow⟩
    · rintro ⟨habove, hbelow⟩
      rcases lt_or_ge x high with hfirst | hlater
      · exact .inl ⟨habove, .inl hfirst⟩
      · exact .inr ⟨hlater, hbelow⟩

/-- Between rising points a value lies in some bucket exactly if it lies between the first and the
last point. -/
theorem exists_liesIn_iff (h : points.Pairwise (· < ·)) (hlength : 1 < points.length) :
    (∃ i, LiesIn points i x) ↔
      (∃ first ∈ points.head?, first ≤ x) ∧ ∃ last ∈ points.getLast?, x ≤ last := by
  match points, hlength with
  | low :: high :: points, _ =>
    rw [exists_liesIn_cons_iff h]
    simp [List.getLast?_eq_some_getLast]

end

/-! ## Buckets between edges -/

/-- There is one bucket for each label. -/
theorem length_bucketsOf {edges labels : List Literal} (h : edges.length = labels.length + 1) :
    (bucketsOf edges labels).length = labels.length := by
  unfold bucketsOf
  rw [List.length_mapIdx, List.length_zip, List.length_zip, List.length_tail]
  omega

/-- Each bucket stands between two neighbouring edges and has the label of its place; only the last
one is closed. -/
theorem getElem?_bucketsOf {edges labels : List Literal} {i : Nat} {low high label : Literal}
    (hlow : edges[i]? = some low) (hhigh : edges[i + 1]? = some high)
    (hlabel : labels[i]? = some label) :
    (bucketsOf edges labels)[i]? =
      some { low, high, closed := i + 1 == labels.length, label } := by
  have hends : (edges.zip edges.tail)[i]? = some (low, high) :=
    List.getElem?_zip_eq_some.2 ⟨hlow, by rw [List.getElem?_tail, hhigh]⟩
  have hall : ((edges.zip edges.tail).zip labels)[i]? = some ((low, high), label) :=
    List.getElem?_zip_eq_some.2 ⟨hends, hlabel⟩
  unfold bucketsOf
  rw [List.getElem?_mapIdx, hall]
  rfl

section

variable {D N : Type} [LinearOrder N] {m : Meaning D} (numbers : m.Numbers N)

/-- A bucket between integers contains a number that is on the right side of both. -/
theorem contains_iff (low high : Int) (closed : Bool) (label : Literal) (x : N) :
    Bucket.contains m ⟨.int low, .int high, closed, label⟩ (some (numbers.value x)) = true ↔
      numbers.ofInt low ≤ x ∧ if closed then x ≤ numbers.ofInt high else x < numbers.ofInt high := by
  have htest (op : BinaryOp) (i : Int) : m.test op (some (numbers.value x)) (m.literal (.int i)) =
      m.compare op (numbers.value x) (numbers.value (numbers.ofInt i)) := by
    rw [← numbers.value_ofInt]
    cases h : m.compare op (numbers.value x) (m.ofInt i) <;>
      simp [Meaning.test, Meaning.compare3, Meaning.literal, h]
  unfold Bucket.contains
  rw [Bool.and_eq_true, htest, htest, numbers.compare_value rfl]
  cases closed with
  | true =>
    rw [numbers.compare_value rfl]
    simp [BinaryOp.relates]
  | false =>
    rw [numbers.compare_value rfl]
    simp [BinaryOp.relates]

/-- Of the buckets between integers, one contains a number exactly if the number lies in it. -/
theorem contains_bucketsOf_iff {points : List Int} {labels : List Literal}
    (hlength : points.length = labels.length + 1) {i : Nat} {b : Bucket}
    (hb : (bucketsOf (points.map .int) labels)[i]? = some b) (x : N) :
    b.contains m (some (numbers.value x)) = true ↔ LiesIn (points.map numbers.ofInt) i x := by
  have hedges : (points.map Literal.int).length = labels.length + 1 := by
    rw [List.length_map, hlength]
  have hi : i < labels.length := by
    rw [← length_bucketsOf hedges]
    exact (List.getElem?_eq_some_iff.1 hb).1
  have hlow : points[i]? = some points[i] := List.getElem?_eq_getElem (by omega)
  have hhigh : points[i + 1]? = some points[i + 1] := List.getElem?_eq_getElem (by omega)
  have hmap {α : Type} (f : Int → α) {j : Nat} {p : Int} (hp : points[j]? = some p) :
      (points.map f)[j]? = some (f p) := by rw [List.getElem?_map, hp, Option.map_some]
  rw [getElem?_bucketsOf (hmap _ hlow) (hmap _ hhigh) (List.getElem?_eq_getElem hi)] at hb
  cases hb
  rw [contains_iff numbers]
  unfold LiesIn
  simp only [hmap _ hlow, hmap _ hhigh, Option.some.injEq, List.length_map, hlength]
  -- the upper edge belongs to the bucket of the last label
  have hclosed : (i + 1 == labels.length) = true ↔ i + 2 = labels.length + 1 := by
    rw [beq_iff_eq]
    omega
  rw [← hclosed]
  cases i + 1 == labels.length with
  | true => grind
  | false => grind

end

end Rule

/-! ## Accepted edges -/

/-- Integers that were accepted as edges are in order. -/
theorem Params.pairwise_of_ascending {points : List Int} (hwords : ∀ i ∈ points, SignedWord i)
    (h : ascending (points.map .int) = true) : points.Pairwise (· < ·) := by
  rw [← List.isChain_iff_pairwise]
  induction points with
  | nil => exact .nil
  | cons i points ih =>
    obtain ⟨hi, hrest⟩ := List.forall_mem_cons.1 hwords
    cases points with
    | nil => exact .singleton i
    | cons j points =>
      obtain ⟨hlt, h⟩ := (Bool.and_eq_true _ _).mp h
      exact .cons_cons (Double.lt_of_ofInt_lt hi (hrest j List.mem_cons_self) hlt) (ih hrest h)

/-- What is known of a binning that was accepted. -/
theorem Transformation.bin_eq_ok {params : Json.Value} {t : Transformation}
    (h : Transformation.read "bin" params = .ok t) {edges labels : List Literal}
    (hrule : t.rule = .bin edges labels) :
    1 < edges.length ∧ Params.ascending edges = true ∧ edges.length = labels.length + 1 := by
  obtain ⟨-, -, hread⟩ := ofKind_eq_ok.1 h
  obtain ⟨edges', labels', hmade, hedges, -, hlength⟩ := Params.binRule_eq_ok hread
  cases hrule.symm.trans hmade
  obtain ⟨-, htwo, hascending⟩ := Params.edges_eq_ok hedges
  exact ⟨htwo, hascending, hlength⟩

namespace Rule

section

variable {D N : Type} [LinearOrder N] {m : Meaning D} (numbers : m.Numbers N) (row : Row D)
  {points : List Int} {labels : List Literal} (hlength : points.length = labels.length + 1)
  {e : Expr} {x : N} (hvalue : e.value m row = some (numbers.value x))

include hlength hvalue

/-- The test of a branch is true exactly of the values in its bucket. -/
theorem isTrue_buckets_iff {i : Nat} {branch : Expr × Expr}
    (hbranch : (buckets e (points.map .int) labels)[i]? = some branch) :
    m.isTrue (branch.1.value m row) = true ↔ LiesIn (points.map numbers.ofInt) i x := by
  rw [buckets_eq_map, List.getElem?_map, Option.map_eq_some_iff] at hbranch
  obtain ⟨b, hb, rfl⟩ := hbranch
  rw [isTrue_branch, hvalue, contains_bucketsOf_iff numbers hlength hb]

omit hvalue in
/-- Every bucket in which a number lies has a branch. -/
theorem exists_branch {i : Nat} (h : LiesIn (points.map numbers.ofInt) i x) :
    ∃ branch, (buckets e (points.map .int) labels)[i]? = some branch := by
  obtain ⟨low, high, -, hhigh, -⟩ := h
  obtain ⟨hi, -⟩ := List.getElem?_eq_some_iff.1 hhigh
  rw [List.length_map] at hi
  refine ⟨_, List.getElem?_eq_getElem ?_⟩
  rw [buckets_eq_map, List.length_map, length_bucketsOf (by rw [List.length_map, hlength])]
  omega

/-- If the points are in order, the branch that is taken is that of the bucket in which the number
lies. -/
theorem findIdx?_buckets_iff (horder : (points.map numbers.ofInt).Pairwise (· < ·)) {i : Nat} :
    (buckets e (points.map .int) labels).findIdx? (fun b => m.isTrue (b.1.value m row)) = some i ↔
      LiesIn (points.map numbers.ofInt) i x := by
  rw [List.findIdx?_eq_some_iff_getElem]
  constructor
  · rintro ⟨hi, htest, -⟩
    exact (isTrue_buckets_iff numbers row hlength hvalue (List.getElem?_eq_getElem hi)).1 htest
  · intro h
    obtain ⟨branch, hbranch⟩ := exists_branch numbers hlength h
    have htest := (isTrue_buckets_iff numbers row hlength hvalue hbranch).2 h
    obtain ⟨hi, rfl⟩ := List.getElem?_eq_some_iff.1 hbranch
    refine ⟨hi, htest, fun j hj hearlier => ?_⟩
    have hsame := LiesIn.unique horder h
      ((isTrue_buckets_iff numbers row hlength hvalue (List.getElem?_eq_getElem _)).1 hearlier)
    omega

end

/-- The branches give the labels in their order. -/
theorem map_snd_buckets (e : Expr) {edges labels : List Literal}
    (h : edges.length = labels.length + 1) : (buckets e edges labels).map (·.2) = labels.map lit := by
  induction labels generalizing edges with
  | nil =>
    match edges, h with
    | [_], _ => rfl
  | cons label labels ih =>
    match edges, h with
    | low :: high :: edges, h =>
      rw [buckets, List.map_cons, ih (by simpa using h)]
      rfl

/-- The value of a `CASE` is that of the branch that is taken. -/
theorem caseValue_of_findIdx? {D : Type} {m : Meaning D} {row : Row D} (otherwise : Option D)
    {branches : List (Expr × Expr)} {i : Nat} {branch : Expr × Expr}
    (hi : branches.findIdx? (fun b => m.isTrue (b.1.value m row)) = some i)
    (hbranch : branches[i]? = some branch) :
    caseValue m row otherwise branches = branch.2.value m row := by
  induction branches generalizing i with
  | nil => exact nomatch hi
  | cons b branches ih =>
    rw [caseValue]
    rw [List.findIdx?_cons] at hi
    split_ifs at hi ⊢
    · cases hi
      cases hbranch
      rfl
    · obtain ⟨j, hj, rfl⟩ := Option.map_eq_some_iff.1 hi
      exact ih hj hbranch

end Rule

/-- A binning that was accepted with integers for edges sorts the numbers from the first edge to the
last one. It has one branch for each label, in order. The branch of a label holds exactly of the
numbers in its bucket, and no two branches hold of one number. Some branch holds exactly of the
numbers from the first edge to the last one. The branch that is taken is that of the bucket in which
the number lies, and the value is its label. -/
theorem Transformation.bin_sorts {D N : Type} [LinearOrder N] {m : Meaning D}
    (numbers : m.Numbers N) {params : Json.Value} {t : Transformation}
    (hread : Transformation.read "bin" params = .ok t) {points : List Int}
    (hwords : ∀ i ∈ points, SignedWord i) {labels : List Literal}
    (hrule : t.rule = .bin (points.map .int) labels) (d : Dialect) (row : Row D) {e : Expr} {x : N}
    (hvalue : e.value m row = some (numbers.value x)) :
    ∃ branches : List (Expr × Expr), t.rule.apply d e = .case branches none ∧
      branches.map (·.2) = labels.map Rule.lit ∧
      (∀ i branch, branches[i]? = some branch →
        (m.isTrue (branch.1.value m row) = true ↔ Rule.LiesIn (points.map numbers.ofInt) i x)) ∧
      (∀ (i j : Nat) (b c : Expr × Expr), branches[i]? = some b → branches[j]? = some c →
        m.isTrue (b.1.value m row) = true → m.isTrue (c.1.value m row) = true → i = j) ∧
      ((∃ b ∈ branches, m.isTrue (b.1.value m row) = true) ↔
        (∃ first ∈ points.head?, numbers.ofInt first ≤ x) ∧
          ∃ last ∈ points.getLast?, x ≤ numbers.ofInt last) ∧
      ∀ i, (branches.findIdx? (fun b => m.isTrue (b.1.value m row)) = some i ↔
          Rule.LiesIn (points.map numbers.ofInt) i x) ∧
        ∀ label, labels[i]? = some label → Rule.LiesIn (points.map numbers.ofInt) i x →
          (t.rule.apply d e).value m row = m.literal label := by
  obtain ⟨htwo, hascending, hlength⟩ := bin_eq_ok hread hrule
  rw [List.length_map] at htwo hlength
  -- the edges are compared as doubles, and if those ascend the integers do
  have horder : (points.map numbers.ofInt).Pairwise (· < ·) := by
    rw [List.pairwise_map]
    exact (Params.pairwise_of_ascending hwords hascending).imp fun h => numbers.ofInt_strictMono h
  set branches := Rule.buckets e (points.map .int) labels with hbranches
  have happly : t.rule.apply d e = .case branches none := by
    rw [hrule]
    rfl
  have hlabels : branches.map (·.2) = labels.map Rule.lit :=
    Rule.map_snd_buckets e (by rw [List.length_map, hlength])
  have htest {i : Nat} {branch : Expr × Expr} (hi : branches[i]? = some branch) :=
    Rule.isTrue_buckets_iff numbers row hlength hvalue hi
  have hchosen (i : Nat) := Rule.findIdx?_buckets_iff numbers row hlength hvalue horder (i := i)
  refine ⟨branches, happly, hlabels, fun i branch hi => htest hi, ?_, ?_, fun i => ⟨hchosen i, ?_⟩⟩
  · intro i j b c hi hj hb hc
    exact Rule.LiesIn.unique horder ((htest hi).1 hb) ((htest hj).1 hc)
  · have hcover := Rule.exists_liesIn_iff (x := x) horder (by rwa [List.length_map])
    simp only [List.head?_map, List.getLast?_map, Option.mem_map, exists_exists_and_eq_and] at hcover
    rw [← hcover]
    constructor
    · rintro ⟨b, hb, hholds⟩
      obtain ⟨i, hi⟩ := List.mem_iff_getElem?.1 hb
      exact ⟨i, (htest hi).1 hholds⟩
    · rintro ⟨i, hlies⟩
      obtain ⟨b, hb⟩ := Rule.exists_branch numbers hlength hlies
      exact ⟨b, List.mem_of_getElem? hb, (htest hb).2 hlies⟩
  · intro label hlabel hlies
    obtain ⟨branch, hbranch⟩ := Rule.exists_branch numbers hlength (e := e) hlies
    -- the chosen branch has the label of its own place
    have hlit : branch.2 = Rule.lit label := by
      have hsnd : (branches.map (·.2))[i]? = (labels.map Rule.lit)[i]? := by rw [hlabels]
      rw [List.getElem?_map, List.getElem?_map, hbranch, hlabel] at hsnd
      exact Option.some.inj hsnd
    rw [happly, Expr.value, otherwiseValue,
      Rule.caseValue_of_findIdx? none ((hchosen i).2 hlies) hbranch, hlit]
    rfl

/-- Two buckets, of which the last one has no double between its edges. -/
def largeEdges : Json.Value :=
  .object [("column", .string "x"),
    ("bins", .array [.number (.int 0), .number (.int 9007199254740992),
      .number (.int 9007199254740994)]),
    ("labels", .array [.string "low", .string "high"])]

/-- The integer between the last two edges has the label of the last bucket. -/
theorem Transformation.bin_sorts_large :
    ∃ t, Transformation.read "bin" largeEdges = .ok t ∧
      t.rule = .bin ([0, 9007199254740992, 9007199254740994].map .int)
        [.string "low", .string "high"] ∧
      (t.rule.apply .duckdb (.col "x")).value .exact
        ⟨fun _ _ => some (.inl 9007199254740993), fun _ => none⟩ = some (.inr "high") := by
  have hread : ((Transformation.read "bin" largeEdges).toOption.map (·.rule)) =
      some (.bin ([0, 9007199254740992, 9007199254740994].map .int)
        [.string "low", .string "high"]) := by decide +kernel
  obtain ⟨t, ht, hrule⟩ := Option.map_eq_some_iff.1 hread
  rw [toOption_eq_some] at ht
  have hwords : ∀ i ∈ [0, 9007199254740992, 9007199254740994], SignedWord i := by
    unfold SignedWord
    decide
  obtain ⟨branches, -, -, -, -, -, hvalue⟩ := bin_sorts Meaning.exactNumbers ht hwords hrule .duckdb
    ⟨fun _ _ => some (.inl 9007199254740993), fun _ => none⟩ (e := .col "x")
    (x := 9007199254740993) rfl
  refine ⟨t, ht, hrule, (hvalue 1).2 (.string "high") rfl ?_⟩
  exact ⟨9007199254740992, 9007199254740994, rfl, rfl, by norm_num, .inl (by norm_num)⟩

end DatasetSql
