import DatasetSql.Proofs.QuotedString

/-!
# Two ways of quoting names

A name that is built is quoted as its dialect says: every closing delimiter in it is doubled. A name
of a statement is printed by rules that are the same for all dialects: between brackets nothing is
doubled, and between other delimiters one that follows another or a backslash is not. So the two ways
give one text exactly if the name has no such delimiter. What was built is read back in any case, what
was printed only then. One grammar asks, besides, for a name that starts like a bare one.
-/

namespace DatasetSql

namespace Statement

variable {g : Grammar}

/-- Doubling the delimiters of a text keeps its first character that is no blank. -/
theorem head?_dropWhile_doubledChars {q : Char} (hq : Text.isBlank q = false) (s : List Char) :
    ((doubledChars q s).dropWhile Text.isBlank).head? = (s.dropWhile Text.isBlank).head? := by
  induction s with
  | nil => rfl
  | cons c s ih =>
    -- a delimiter is no blank, so doubling it changes no start
    by_cases hc : c = q
    · rw [hc, doubledChars_quote, List.dropWhile_cons_of_neg (by simp [hq]),
        List.dropWhile_cons_of_neg (by simp [hq])]
      rfl
    · rw [doubledChars_other hc]
      by_cases hblank : Text.isBlank c = true
      · rw [List.dropWhile_cons_of_pos hblank, List.dropWhile_cons_of_pos hblank, ih]
      · rw [List.dropWhile_cons_of_neg hblank, List.dropWhile_cons_of_neg hblank]
        rfl

namespace Name

variable (n : Name g)

/-- What doubles the delimiters of a text stands there exactly if a reader finds the text. -/
theorem doubledChars_eq_iff {s t : List Char} :
    doubledChars n.closing s = t ↔ readIdent n.closing (t ++ [n.closing]) = some (s, []) := by
  rw [readIdent_eq_readString]
  constructor
  · rintro rfl
    exact readString_doubledChars (by simp) (by simp)
  · intro h
    exact (List.append_cancel_right (eq_doubledChars_of_readString h)).symm

/-- A text with the delimiters of a name around it is the lexeme of the name exactly if the name is
found in it and accepted. -/
theorem lex_eq_lexeme_iff {s : String} {t : List Char} {P : Prop}
    (hs : s.toList = n.quote :: (t ++ [n.closing]))
    (hhead : (t.dropWhile Text.isBlank).head? = (n.value.toList.dropWhile Text.isBlank).head?)
    (hread : ∀ r, readIdent n.closing (t ++ [n.closing]) = some (n.value.toList, r) ↔ P ∧ r = []) :
    lex g s = some [n.lexeme] ↔ P ∧ (g.checksQuoted = true →
      (n.value.toList.dropWhile Text.isBlank).head?.any g.startsIdent = true) := by
  have haccepts := n.acceptsQuoted_iff hhead []
  refine lex_eq_singleton_iff hs (fun l r hr => ?_) fun r => ?_
  · rw [nextLexeme_quote n.opens] at hr
    split_ifs at hr
    · obtain ⟨found, -, hfound⟩ := Option.map_eq_some_iff.1 hr
      exact ⟨_, (Prod.mk.inj hfound).1.symm⟩
    · exact ⟨_, (Prod.mk.inj (Option.some.inj hr)).1.symm⟩
  · rw [nextLexeme_quote n.opens, ← closing, ← haccepts]
    split_ifs with h
    · rw [Option.map_eq_some_iff]
      constructor
      · rintro ⟨⟨s', r'⟩, hfound, heq⟩
        simp only [Prod.mk.injEq, Option.some.injEq, quotedWord, lexeme, ident, Lexeme.word.injEq,
          Ident.mk.injEq, and_true] at heq
        obtain ⟨hvalue, rfl⟩ := heq
        rw [← hvalue, String.toList_ofList] at hread
        obtain ⟨hP, hr⟩ := (hread r').1 hfound
        exact ⟨⟨hP, h⟩, hr⟩
      · rintro ⟨⟨hP, -⟩, hr⟩
        exact ⟨_, (hread r).2 ⟨hP, hr⟩, by simp [quotedWord, lexeme, ident]⟩
    · -- the delimiter alone would be a symbol
      constructor
      · intro hfound
        cases (Prod.mk.inj (Option.some.inj hfound)).1
      · rintro ⟨⟨-, haccepted⟩, -⟩
        exact absurd haccepted h

/-- A name whose delimiters are doubled is read back. -/
theorem lex_enclosed_iff :
    lex g (Text.enclosed n.quote n.closing n.value) = some [n.lexeme] ↔ (g.checksQuoted = true →
      (n.value.toList.dropWhile Text.isBlank).head?.any g.startsIdent = true) := by
  have hread (r : List Char) : readIdent n.closing (doubledChars n.closing n.value.toList ++
      [n.closing]) = some (n.value.toList, r) ↔ True ∧ r = [] := by
    rw [(n.doubledChars_eq_iff).1 rfl]
    simp [eq_comm]
  rw [n.lex_eq_lexeme_iff (Text.toList_enclosed ..)
    (head?_dropWhile_doubledChars n.isBlank_closing _) hread, true_and]

/-- A name that is printed is read back if it is also clean. -/
theorem lex_text_iff :
    lex g n.ident.text = some [n.lexeme] ↔
      (if n.quote = '[' then ']' ∉ n.value.toList else Faithful n.quote false n.value.toList) ∧
        (g.checksQuoted = true →
          (n.value.toList.dropWhile Text.isBlank).head?.any g.startsIdent = true) :=
  n.lex_eq_lexeme_iff n.toList_text n.head?_dropWhile_inside fun _ => readIdent_inside_iff ends_nil

/-- The two ways of quoting a name agree. -/
theorem enclosed_eq_text_iff :
    Text.enclosed n.quote n.closing n.value = n.ident.text ↔
      if n.quote = '[' then ']' ∉ n.value.toList else Faithful n.quote false n.value.toList := by
  have hinside : readIdent n.closing (n.inside ++ [n.closing]) = some (n.value.toList, []) ↔ _ :=
    readIdent_inside_iff ends_nil
  rw [and_iff_left rfl, ← n.doubledChars_eq_iff] at hinside
  rw [← hinside, String.ext_iff, Text.toList_enclosed, toList_text, List.cons_append,
    List.cons_inj_right, List.append_left_inj]

end Name

end Statement

namespace Dialect

open Statement

/-- A name in the delimiters of a dialect. -/
def nameOf (d : Dialect) (v : String) : Name (.of (some d)) :=
  ⟨v, d.quote, by cases d <;> rfl⟩

/-- Whether a name can stand between the delimiters of a dialect as it is printed there. -/
theorem printable_iff (d : Dialect) (v : String) :
    (if d.quote = '[' then ']' ∉ v.toList else Faithful d.quote false v.toList) ↔
      if d = .tsql then ']' ∉ v.toList
      else ¬ [d.quote, d.quote] <:+: v.toList ∧ ¬ ['\\', d.quote] <:+: v.toList := by
  have hfaithful (q : Char) : Faithful q false v.toList ↔
      ¬ [q, q] <:+: v.toList ∧ ¬ ['\\', q] <:+: v.toList :=
    ⟨fun h => ⟨h.single, h.unguarded⟩, fun h => ⟨h.1, h.2, by simp⟩⟩
  rw [hfaithful]
  cases d <;> rfl

/-- For every dialect and name, the name as the dialect quotes it is the identifier as it is printed
exactly if no delimiter stands in it where none would be doubled: a closing bracket, or else a quote
after a quote or a backslash. What the dialect quotes is read back with its grammar as the name, and
what is printed exactly if both are one text; but Redshift reads a name only if its first character
that is no blank can start a bare one. -/
theorem quoteIdentifier_eq_text_iff (d : Dialect) (v : String) :
    (d.quoteIdentifier v = (⟨v, some d.quote⟩ : Ident).text ↔
      if d = .tsql then ']' ∉ v.toList
      else ¬ [d.quote, d.quote] <:+: v.toList ∧ ¬ ['\\', d.quote] <:+: v.toList) ∧
    (lex (.of (some d)) (d.quoteIdentifier v) = some [quotedWord d.quote v] ↔ (d = .redshift →
      (v.toList.dropWhile Text.isBlank).head?.any Grammar.redshift.startsIdent = true)) ∧
    (lex (.of (some d)) (⟨v, some d.quote⟩ : Ident).text = some [quotedWord d.quote v] ↔
      d.quoteIdentifier v = (⟨v, some d.quote⟩ : Ident).text ∧ (d = .redshift →
        (v.toList.dropWhile Text.isBlank).head?.any Grammar.redshift.startsIdent = true)) := by
  -- only one grammar looks at the first character of a quoted name
  have hstart : ((Grammar.of (some d)).checksQuoted = true →
      (v.toList.dropWhile Text.isBlank).head?.any (Grammar.of (some d)).startsIdent = true) ↔
      (d = .redshift →
        (v.toList.dropWhile Text.isBlank).head?.any Grammar.redshift.startsIdent = true) := by
    cases d <;> simp [Grammar.of, Grammar.checksQuoted]
  have hequal := (d.nameOf v).enclosed_eq_text_iff
  refine ⟨hequal.trans (d.printable_iff v), (d.nameOf v).lex_enclosed_iff.trans hstart, ?_⟩
  exact (d.nameOf v).lex_text_iff.trans (and_congr hequal.symm hstart)

/-- Names that are printed in another way than they are built, and not read back then; and one that is
not read back at all. -/
theorem quoteIdentifier_ne_text :
    Dialect.tsql.quoteIdentifier "a]b" = "[a]]b]" ∧ (⟨"a]b", some '['⟩ : Ident).text = "[a]b]" ∧
      lex .tsql "[a]b]" = some [quotedWord '[' "a", bareWord "b", .symbol "]"] ∧
    Dialect.postgres.quoteIdentifier "a\"\"b" = "\"a\"\"\"\"b\"" ∧
      (⟨"a\"\"b", some '"'⟩ : Ident).text = "\"a\"\"b\"" ∧
      lex .postgres "\"a\"\"b\"" = some [quotedWord '"' "a\"b"] ∧
    Dialect.redshift.quoteIdentifier "1a" = "\"1a\"" ∧
      lex .redshift "\"1a\"" ≠ some [quotedWord '"' "1a"] := by
  decide +kernel

end Dialect

end DatasetSql
