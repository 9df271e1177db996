import DatasetSql.Emit.Token
import DatasetSql.Proofs.Lexing

/-!
# Quoting strings

All dialects double the quotes of a string and write everything else as it stands. That is enough
where a doubled quote is the only special thing inside a string. It is not where a backslash escapes
the character after it, nor where three quotes open a string of another kind.
-/

namespace DatasetSql

namespace Text

/-- An enclosed text stands between its delimiters, with the closing one doubled inside. -/
theorem toList_enclosed (opening closing : Char) (s : String) :
    (enclosed opening closing s).toList =
      opening :: (Statement.doubledChars closing s.toList ++ [closing]) := by
  simp [enclosed, doubled, Statement.doubledChars]

end Text

namespace Statement

variable {q : Char} {g : Grammar}

theorem doubledChars_quote (cs : List Char) :
    doubledChars q (q :: cs) = q :: q :: doubledChars q cs := by
  simp [doubledChars]

theorem doubledChars_other {c : Char} (hc : c ≠ q) (cs : List Char) :
    doubledChars q (c :: cs) = c :: doubledChars q cs := by
  simp [doubledChars, hc]

/-- Doubling does not change the first character. -/
theorem head?_doubledChars (cs : List Char) : (doubledChars q cs).head? = cs.head? := by
  cases cs with
  | nil => rfl
  | cons c cs =>
    by_cases hc : c = q
    · rw [hc, doubledChars_quote]
      rfl
    · rw [doubledChars_other hc]
      rfl

/-- Backslashes in front of a text can be moved behind its first one. -/
theorem replicate_backslash_cons (k : Nat) (cs : List Char) :
    List.replicate k '\\' ++ '\\' :: cs = '\\' :: (List.replicate k '\\' ++ cs) := by
  rw [← List.singleton_append, ← List.append_assoc, ← List.replicate_succ', List.replicate_succ]
  rfl

/-- A reader that takes backslashes for escapes gives one backslash for two. So once it owes `k` of
them, it owes more and more, and it has given back everything only if there was none. -/
theorem plain_of_readString {rest : List Char} (hq : q ≠ '\\') (hrest : rest.head? ≠ some q)
    (n : Nat) : ∀ (y : List Char), y.length ≤ n → ∀ (k : Nat) (r : List Char),
      readString q true (doubledChars q y ++ q :: rest) = some (List.replicate k '\\' ++ y, r) →
      k = 0 ∧ '\\' ∉ y := by
  -- the first character that is given is the first that is owed
  have hgiven {x : Option Taken} {a c : Char} {k : Nat} {y r : List Char}
      (h : x.map (fun p => (a :: p.1, p.2)) = some (List.replicate k '\\' ++ c :: y, r))
      (ha : a ≠ '\\') : k = 0 ∧ x = some (y, r) := by
    obtain ⟨s', hs, hx⟩ := map_cons_eq_some h
    cases k with
    | zero =>
      obtain ⟨-, rfl⟩ := List.cons.inj hs
      exact ⟨rfl, hx⟩
    | succ k =>
      rw [List.replicate_succ, List.cons_append] at hs
      exact absurd (List.cons.inj hs).1.symm ha
  have hescape {a : Char} {k : Nat} {cs y r : List Char}
      (h : readString q true ('\\' :: a :: cs) = some (List.replicate k '\\' ++ '\\' :: y, r)) :
      a = '\\' ∧ readString q true cs = some (List.replicate k '\\' ++ y, r) := by
    rw [readString_escape hq, replicate_backslash_cons] at h
    obtain ⟨s', hs, hx⟩ := map_cons_eq_some h
    obtain ⟨ha, rfl⟩ := List.cons.inj hs
    exact ⟨eq_of_unescaped (.inr (.inr (.inr rfl))) ha.symm, hx⟩
  induction n with
  | zero =>
    intro y hy k r h
    rw [List.length_eq_zero_iff.1 (Nat.le_zero.1 hy), List.append_nil, doubledChars, List.flatMap_nil,
      List.nil_append, readString_close hrest] at h
    have hk : [] = List.replicate k '\\' := (Prod.mk.inj (Option.some.inj h)).1
    rw [List.length_eq_zero_iff.1 (Nat.le_zero.1 hy)]
    exact ⟨by simpa using hk.symm, by simp⟩
  | succ n ih =>
    intro y hy k r h
    cases y with
    | nil => exact ih [] (Nat.zero_le n) k r h
    | cons c y₁ =>
      have hy₁ : y₁.length ≤ n := Nat.le_of_succ_le_succ hy
      by_cases hc : c = q
      · rw [hc, doubledChars_quote, List.cons_append, List.cons_append, readString_pair] at h
        obtain ⟨rfl, hnext⟩ := hgiven h hq
        have hplain := (ih y₁ hy₁ 0 r hnext).2
        exact ⟨rfl, by simp [hc, hq.symm, hplain]⟩
      · rw [doubledChars_other hc, List.cons_append] at h
        by_cases hb : c = '\\'
        · -- what follows the backslash has to be another one, and then one more is owed
          exfalso
          rw [hb] at h
          cases y₁ with
          | nil => exact hq (hescape h).1
          | cons d y₂ =>
            by_cases hd : d = q
            · rw [hd, doubledChars_quote] at h
              exact hq (hescape h).1
            · rw [doubledChars_other hd] at h
              obtain ⟨rfl, hnext⟩ := hescape h
              rw [replicate_backslash_cons, ← List.cons_append, ← List.replicate_succ] at hnext
              exact Nat.succ_ne_zero k (ih y₂ (Nat.le_of_succ_le hy₁) (k + 1) r hnext).1
        · rw [readString_plain hc fun he => hb he.2] at h
          obtain ⟨rfl, hnext⟩ := hgiven h hb
          have hplain := (ih y₁ hy₁ 0 r hnext).2
          exact ⟨rfl, by simp [Ne.symm hb, hplain]⟩

/-- A text whose quotes are doubled is read back, and nothing after it, exactly if it has no backslash
that counts. -/
theorem readString_doubledChars_iff {escapes : Bool} {s r rest : List Char} (hq : q ≠ '\\')
    (hrest : rest.head? ≠ some q) :
    readString q escapes (doubledChars q s ++ q :: rest) = some (s, r) ↔
      (escapes = true → '\\' ∉ s) ∧ r = rest := by
  constructor
  · intro h
    have hs : escapes = true → '\\' ∉ s := by
      intro he
      rw [he] at h
      exact (plain_of_readString hq hrest s.length s le_rfl 0 r h).2
    rw [readString_doubledChars hs hrest] at h
    exact ⟨hs, (Prod.mk.inj (Option.some.inj h)).2.symm⟩
  · rintro ⟨hs, rfl⟩
    exact readString_doubledChars hs hrest

/-- A text is cut into one lexeme alone exactly if the first step finds it and leaves nothing. -/
theorem lex_eq_singleton_iff {s : String} {c : Char} {cs : List Char} {x : Lexeme} {P : Prop}
    (hs : s.toList = c :: cs)
    (hlexeme : ∀ l rest, nextLexeme g none c cs = some (l, rest) → ∃ y, l = some y)
    (hnext : ∀ rest, nextLexeme g none c cs = some (some x, rest) ↔ P ∧ rest = []) :
    lex g s = some [x] ↔ P := by
  rw [lex, hs, List.length_cons, lexFrom_succ]
  constructor
  · intro h
    obtain ⟨⟨l, rest⟩, hfound, h⟩ := Option.bind_eq_some_iff.1 h
    obtain ⟨tail, -, hl⟩ := Option.map_eq_some_iff.1 h
    obtain ⟨y, rfl⟩ := hlexeme l rest hfound
    have hy : y = x := (List.cons.inj hl).1
    rw [hy] at hfound
    exact ((hnext rest).1 hfound).1
  · intro hP
    rw [(hnext []).2 ⟨hP, rfl⟩]
    cases cs <;> rfl

/-- In T-SQL an `N` before a quote marks a national string. -/
theorem nextLexeme_marked (cs : List Char) :
    nextLexeme .tsql none 'N' ('\'' :: cs) = (readString '\'' true cs).map fun (s, rest) =>
      (some (.literal (.marked .national .single false (String.ofList s))), rest) := by
  show (readWithMarker .tsql (.mark .national) '\'' ('\'' :: cs)).map found = _
  rw [readWithMarker, if_pos (by decide), Option.map_map]
  rfl

/-- What the reader makes of a string without a marker. -/
theorem nextLexeme_unmarked_iff (previous : Option Lexeme) (s : String) {r rest : List Char}
    (hrest : rest.head? ≠ some '\'') :
    nextLexeme g previous '\'' (doubledChars '\'' s.toList ++ '\'' :: rest) =
        some (some (.literal (.string s)), r) ↔
      ((g.escapesWithBackslash = true → '\\' ∉ s.toList) ∧
        (g.tripleQuotes = true → s.toList.head? ≠ some '\'')) ∧ r = rest := by
  rw [nextLexeme_string]
  refine readPlain_iff hrest (fun hhead => ?_) (fun hhead => ?_)
    (readString_doubledChars_iff (by decide) hrest)
  · obtain ⟨cs, hs⟩ := List.head?_eq_some_iff.1 hhead
    rw [hs, doubledChars_quote]
    exact ⟨_, rfl⟩
  · rwa [head?_doubledChars]

/-- What the reader makes of a string after the marker. -/
theorem nextLexeme_marked_iff (s : String) {r : List Char} :
    nextLexeme .tsql none 'N' ('\'' :: (doubledChars '\'' s.toList ++ ['\''])) =
        some (some (.literal (.marked .national .single false s)), r) ↔
      '\\' ∉ s.toList ∧ r = [] := by
  have hread : readString '\'' true (doubledChars '\'' s.toList ++ ['\'']) = some (s.toList, r) ↔
      '\\' ∉ s.toList ∧ r = [] := by
    rw [readString_doubledChars_iff (by decide) (by simp)]
    simp
  rw [nextLexeme_marked, Option.map_eq_some_iff, ← hread]
  constructor
  · rintro ⟨⟨s', r'⟩, hs', hfound⟩
    simp only [Prod.mk.injEq, Option.some.injEq, Lexeme.literal.injEq, Value.marked.injEq,
      true_and] at hfound
    obtain ⟨rfl, rfl⟩ := hfound
    rw [hs', String.toList_ofList]
  · intro hs
    exact ⟨_, hs, by simp⟩

end Statement

namespace Dialect

open Statement

/-- The literal that a string is meant to be read as. -/
def stringValue (d : Dialect) (s : String) : Value :=
  if d == .tsql && !isAscii s then .marked .national .single false s else .string s

/-- Whether the reader takes a backslash in the literal of a string for an escape. It always does
after a marker. -/
def escapesIn (d : Dialect) (s : String) : Bool :=
  (Grammar.of (some d)).escapesWithBackslash || d == .tsql && !isAscii s

/-- For T-SQL a text that is not ASCII is written as a national string. -/
theorem toList_quoteString_marked {d : Dialect} {s : String}
    (h : (d == .tsql && !isAscii s) = true) :
    (d.quoteString s).toList = 'N' :: '\'' :: (doubledChars '\'' s.toList ++ ['\'']) := by
  rw [quoteString, if_pos h, String.toList_append, Text.toList_enclosed]
  rfl

/-- Any other text is written as a plain string. -/
theorem toList_quoteString_unmarked {d : Dialect} {s : String}
    (h : (d == .tsql && !isAscii s) = false) :
    (d.quoteString s).toList = '\'' :: (doubledChars '\'' s.toList ++ ['\'']) := by
  rw [quoteString, if_neg (by simp [h]), Text.toList_enclosed]

/-- A quoted text is read back as one literal exactly if it has no backslash where these escape, and
no quote at its head where three quotes open a string. -/
theorem lex_quoteString_iff (d : Dialect) (s : String) :
    lex (.of (some d)) (d.quoteString s) = some [.literal (d.stringValue s)] ↔
      (d.escapesIn s = true → '\\' ∉ s.toList) ∧
        ((Grammar.of (some d)).tripleQuotes = true → s.toList.head? ≠ some '\'') := by
  -- T-SQL marks what is not ASCII, and a marked literal is read with escapes
  cases hmarked : d == .tsql && !isAscii s with
  | true =>
    obtain ⟨rfl, -⟩ : d = .tsql ∧ _ := by simpa using hmarked
    have hlex : lex (.of (some .tsql)) (Dialect.tsql.quoteString s) =
        some [.literal (.marked .national .single false s)] ↔ '\\' ∉ s.toList := by
      refine lex_eq_singleton_iff (toList_quoteString_marked hmarked) (fun l r hr => ?_) fun r =>
        nextLexeme_marked_iff s
      rw [Grammar.of, nextLexeme_marked] at hr
      obtain ⟨found, -, hfound⟩ := Option.map_eq_some_iff.1 hr
      exact ⟨_, (Prod.mk.inj hfound).1.symm⟩
    rw [stringValue, if_pos hmarked, escapesIn, hmarked, Bool.or_true, hlex]
    simp [Grammar.of, Grammar.tripleQuotes]
  | false =>
    rw [stringValue, if_neg (by simp [hmarked]), escapesIn, hmarked, Bool.or_false]
    refine lex_eq_singleton_iff (toList_quoteString_unmarked hmarked) (fun l r hr => ?_) fun r =>
      nextLexeme_unmarked_iff none s (by simp)
    rw [nextLexeme_string] at hr
    obtain ⟨v, hv⟩ := eq_literal_of_readPlain hr
    exact ⟨.literal v, hv⟩

end Dialect

namespace Emit.Token

open Statement

/-- The token of a string is read back as one literal of that string, and nothing else is read,
exactly if no backslash in the string is taken for an escape and the literal does not open with three
quotes where these open another one. -/
theorem lex_litString_iff (d : Dialect) (s : String) :
    ∃ text, (litString s).render d = .ok text ∧
      (lex (.of (some d)) text = some [.literal (d.stringValue s)] ↔
        (d.escapesIn s = true → '\\' ∉ s.toList) ∧
          ((Grammar.of (some d)).tripleQuotes = true → s.toList.head? ≠ some '\'')) :=
  ⟨_, rfl, d.lex_quoteString_iff s⟩

/-- Three strings that get out of their literals: one goes on as a condition, after one the text does
not end, and one loses its backslash. -/
theorem lex_litString_escapes :
    ((litString "\\' OR 1 = 1 -- ").render .mysql).toOption.bind (lex (.of (some .mysql))) =
        some [.literal (.string "'"), bareWord "OR", .literal (.number "1" false), .symbol "=",
          .literal (.number "1" false)] ∧
      ((litString "'x").render .bigquery).toOption.bind (lex (.of (some .bigquery))) = none ∧
      ((litString "é\\d").render .tsql).toOption.bind (lex (.of (some .tsql))) =
        some [.literal (.marked .national .single false "éd")] := by
  decide +kernel

end Emit.Token

end DatasetSql
