import DatasetSql.Statement.Basic

/-!
# Equality of statements is decidable

Trees are compared node by node. What is compared has no numbers in it that could be large, so closed
statements can be told apart by evaluation.
-/

namespace DatasetSql.Statement

mutual

/-- Whether two parts of phrases are the same. -/
def Part.same : Part → Part → Bool
  | .words s, .words t => s == t
  | .literal v, .literal w => v == w
  | .expr e, .expr f => e.same f
  | .query q, .query r => q.same r
  | .source s, .source t => s.same t
  | .late ps, .late qs => samePhrase ps qs
  | _, _ => false
termination_by structural x => x

/-- Whether two phrases are the same. -/
def samePhrase : List Part → List Part → Bool
  | [], [] => true
  | x :: ps, y :: qs => x.same y && samePhrase ps qs
  | _, _ => false
termination_by structural x => x

/-- Whether two expressions are the same. -/
def Expr.same : Expr → Expr → Bool
  | .ident i, .ident j => i == j
  | .compound is, .compound js => is == js
  | .value v, .value w => v == w
  | .call n ps, .call m qs => n == m && samePhrase ps qs
  | .binary l o r, .binary l' o' r' => l.same l' && o == o' && r.same r'
  | .subquery q, .subquery r => q.same r
  | .form t ps, .form u qs => t == u && samePhrase ps qs
  | _, _ => false
termination_by structural x => x

/-- Whether two expressions that may be left out are the same. -/
def sameExpr? : Option Expr → Option Expr → Bool
  | none, none => true
  | some e, some f => e.same f
  | _, _ => false
termination_by structural x => x

/-- Whether two queries are the same. -/
def Query.same : Query → Query → Bool
  | .mk re cs b o l f u d s t c, .mk re' cs' b' o' l' f' u' d' s' t' c' =>
    re == re' && sameCtes cs cs' && b.same b' && samePhrase o o' && sameExpr? l l' &&
      sameExpr? f f' && u == u' && samePhrase d d' && s == s' && sameExpr? t t' && c == c'
termination_by structural x => x

/-- Whether common table expressions are the same. -/
def sameCtes : List Cte → List Cte → Bool
  | [], [] => true
  | .mk a m q o :: cs, .mk a' m' q' o' :: cs' =>
    a == a' && m == m' && q.same q' && o == o' && sameCtes cs cs'
  | _, _ => false
termination_by structural x => x

/-- Whether two bodies of queries are the same. -/
def Body.same : Body → Body → Bool
  | .select s, .select t => s.same t
  | .query q, .query r => q.same r
  | .setOperation l o r, .setOperation l' o' r' => l.same l' && o == o' && r.same r'
  | .phrase ps, .phrase qs => samePhrase ps qs
  | _, _ => false
termination_by structural x => x

/-- Whether two `SELECT`s are the same. -/
def Select.same : Select → Select → Bool
  | .mk o is t ss cs, .mk o' is' t' ss' cs' =>
    samePhrase o o' && sameItems is is' && t == t' && sameSources ss ss' && samePhrase cs cs'
termination_by structural x => x

/-- Whether two select lists are the same. -/
def sameItems : List (Expr × Option Ident) → List (Expr × Option Ident) → Bool
  | [], [] => true
  | (e, a) :: is, (f, b) :: js => e.same f && a == b && sameItems is js
  | _, _ => false
termination_by structural x => x

/-- Whether sources are the same. -/
def sameSources : List Source → List Source → Bool
  | [], [] => true
  | s :: ss, t :: ts => s.same t && sameSources ss ts
  | _, _ => false
termination_by structural x => x

/-- Whether two sources are the same. -/
def Source.same : Source → Source → Bool
  | .mk r js, .mk r' js' => r.same r' && sameJoins js js'
termination_by structural x => x

/-- Whether two relations are the same. -/
def Relation.same : Relation → Relation → Bool
  | .table n c d a t, .table n' c' d' a' t' =>
    n == n' && c == c' && samePhrase d d' && a == a' && samePhrase t t'
  | .derived l q a, .derived l' q' a' => l == l' && q.same q' && a == a'
  | .nested s a, .nested s' a' => s.same s' && a == a'
  | .form ps a t, .form ps' a' t' => samePhrase ps ps' && a == a' && t == t'
  | _, _ => false
termination_by structural x => x

/-- Whether joins are the same. -/
def sameJoins : List Join → List Join → Bool
  | [], [] => true
  | .mk w r c :: js, .mk w' r' c' :: js' =>
    w == w' && r.same r' && samePhrase c c' && sameJoins js js'
  | _, _ => false
termination_by structural x => x

end

mutual

/-- Parts of a phrase are compared correctly. Both sides are taken apart together: where the
constructors differ, neither holds. -/
theorem Part.same_iff (x y : Part) : x.same y = true ↔ x = y := by
  cases x <;> cases y <;> simp [Part.same]
  case expr.expr e f => exact Expr.same_iff e f
  case query.query q r => exact Query.same_iff q r
  case source.source s t => exact Source.same_iff s t
  case late.late ps qs => exact samePhrase_iff ps qs
termination_by structural x

theorem samePhrase_iff (ps qs : List Part) : samePhrase ps qs = true ↔ ps = qs := by
  cases ps <;> cases qs <;> simp [samePhrase]
  case cons.cons x ps y qs => rw [Part.same_iff x y, samePhrase_iff ps qs]
termination_by structural ps

/-- Expressions are compared correctly. -/
theorem Expr.same_iff (e f : Expr) : e.same f = true ↔ e = f := by
  cases e <;> cases f <;> simp [Expr.same]
  case call.call n ps m qs => rw [samePhrase_iff ps qs]; exact fun _ => Iff.rfl
  case binary.binary l o r l' o' r' => rw [Expr.same_iff l l', Expr.same_iff r r', and_assoc]
  case subquery.subquery q r => exact Query.same_iff q r
  case form.form t ps u qs => rw [samePhrase_iff ps qs]; exact fun _ => Iff.rfl
termination_by structural e

theorem sameExpr?_iff (e f : Option Expr) : sameExpr? e f = true ↔ e = f := by
  cases e <;> cases f <;> simp [sameExpr?]
  case some.some e f => exact Expr.same_iff e f
termination_by structural e

theorem Query.same_iff (q r : Query) : q.same r = true ↔ q = r := by
  obtain ⟨re, cs, b, o, l, f, u, d, s, t, c⟩ := q
  obtain ⟨re', cs', b', o', l', f', u', d', s', t', c'⟩ := r
  simp only [Query.same, Bool.and_eq_true, beq_iff_eq, sameCtes_iff cs cs', Body.same_iff b b',
    samePhrase_iff o o', sameExpr?_iff l l', sameExpr?_iff f f', samePhrase_iff d d',
    sameExpr?_iff t t', Query.mk.injEq, and_assoc]
termination_by structural q

theorem sameCtes_iff (cs ds : List Cte) : sameCtes cs ds = true ↔ cs = ds := by
  match cs, ds with
  | [], [] => simp [sameCtes]
  | [], _ :: _ => simp [sameCtes]
  | .mk _ _ _ _ :: _, [] => simp [sameCtes]
  | .mk a m q o :: cs, .mk a' m' q' o' :: cs' =>
    simp only [sameCtes, Bool.and_eq_true, beq_iff_eq, Query.same_iff q q', sameCtes_iff cs cs',
      List.cons.injEq, Cte.mk.injEq, and_assoc]
termination_by structural cs

theorem Body.same_iff (b c : Body) : b.same c = true ↔ b = c := by
  cases b <;> cases c <;> simp [Body.same]
  case select.select s t => exact Select.same_iff s t
  case query.query q r => exact Query.same_iff q r
  case setOperation.setOperation l o r l' o' r' =>
    rw [Body.same_iff l l', Body.same_iff r r', and_assoc]
  case phrase.phrase ps qs => exact samePhrase_iff ps qs
termination_by structural b

theorem Select.same_iff (s t : Select) : s.same t = true ↔ s = t := by
  obtain ⟨o, is, w, ss, cs⟩ := s
  obtain ⟨o', is', w', ss', cs'⟩ := t
  simp only [Select.same, Bool.and_eq_true, beq_iff_eq, samePhrase_iff o o', sameItems_iff is is',
    sameSources_iff ss ss', samePhrase_iff cs cs', Select.mk.injEq, and_assoc]
termination_by structural s

theorem sameItems_iff (is js : List (Expr × Option Ident)) : sameItems is js = true ↔ is = js := by
  match is, js with
  | [], [] => simp [sameItems]
  | [], _ :: _ => simp [sameItems]
  | (_, _) :: _, [] => simp [sameItems]
  | (e, a) :: is, (f, b) :: js =>
    simp only [sameItems, Bool.and_eq_true, beq_iff_eq, Expr.same_iff e f, sameItems_iff is js,
      List.cons.injEq, Prod.mk.injEq, and_assoc]
termination_by structural is

theorem sameSources_iff (ss ts : List Source) : sameSources ss ts = true ↔ ss = ts := by
  cases ss <;> cases ts <;> simp [sameSources]
  case cons.cons s ss t ts => rw [Source.same_iff s t, sameSources_iff ss ts]
termination_by structural ss

theorem Source.same_iff (s t : Source) : s.same t = true ↔ s = t := by
  obtain ⟨r, js⟩ := s
  obtain ⟨r', js'⟩ := t
  simp only [Source.same, Bool.and_eq_true, Relation.same_iff r r', sameJoins_iff js js',
    Source.mk.injEq]
termination_by structural s

theorem Relation.same_iff (r s : Relation) : r.same s = true ↔ r = s := by
  cases r <;> cases s <;> simp [Relation.same]
  case table.table n c d a t n' c' d' a' t' =>
    rw [samePhrase_iff d d', samePhrase_iff t t']
    simp only [and_assoc]
  case derived.derived l q a l' q' a' => rw [Query.same_iff q q', and_assoc]
  case nested.nested s a s' a' => rw [Source.same_iff s s']; exact fun _ => Iff.rfl
  case form.form ps a t ps' a' t' => rw [samePhrase_iff ps ps', and_assoc]
termination_by structural r

theorem sameJoins_iff (js ks : List Join) : sameJoins js ks = true ↔ js = ks := by
  match js, ks with
  | [], [] => simp [sameJoins]
  | [], _ :: _ => simp [sameJoins]
  | .mk _ _ _ :: _, [] => simp [sameJoins]
  | .mk w r c :: js, .mk w' r' c' :: ks =>
    simp only [sameJoins, Bool.and_eq_true, beq_iff_eq, Relation.same_iff r r',
      samePhrase_iff c c', sameJoins_iff js ks, List.cons.injEq, Join.mk.injEq, and_assoc]
termination_by structural js

end

end DatasetSql.Statement

namespace DatasetSql

open Statement

instance : DecidableEq Statement
  | .query q, .query r =>
    decidable_of_iff (q.same r = true) (by rw [Query.same_iff, Statement.query.injEq])
  | .command ps, .command qs =>
    decidable_of_iff (samePhrase ps qs = true) (by rw [samePhrase_iff, Statement.command.injEq])
  | .query _, .command _ => .isFalse nofun
  | .command _, .query _ => .isFalse nofun

end DatasetSql
