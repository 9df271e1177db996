import DatasetSql.Compile.Check
import DatasetSql.Proofs.Quoting
import DatasetSql.Proofs.RoundTrip

/-!
# Checking twice

A text that was checked is the text of a quoted statement. It is read as that statement again, and
checking it again changes nothing, if every name and every string in it is clean; for plain selects,
only then.
-/

namespace DatasetSql

open Statement

/-- The check hands out the quoted text of the one statement that it reads, and passes only if there
is exactly one. -/
theorem checkGenerated_eq_ok_iff {sql out schema : String} {d : Dialect} :
    checkGenerated sql d schema = .ok out ↔
      ∃ s, parseAll (.of d) sql = .ok [s] ∧ out = (quoteNames d s).text := by
  unfold checkGenerated
  split
  next e h => simp [h]
  next s h => simp [h, eq_comm]
  next ss hss h =>
    refine iff_of_false (fun h => nomatch h) ?_
    rintro ⟨s, hs, -⟩
    exact hss s (Except.ok.inj (h.symm.trans hs))

/-- A checked text is checked again with the same result if it is read as the quoted statement that
it was written from. Whether it is, is told exactly for plain selects, the statements that select
columns and strings from tables by name: their text is read so exactly if they are clean. -/
theorem checkGenerated_readBack_iff {sql out schema : String} {d : Dialect}
    (h : checkGenerated sql d schema = .ok out) :
    ∃ s, parseAll (.of d) sql = .ok [s] ∧ out = (quoteNames d s).text ∧
      (parseAll (.of d) out = .ok [quoteNames d s] → checkGenerated out d schema = .ok out) ∧
      ∀ p : PlainSelect (.of d), quoteNames d s = p.statement →
        (parseAll (.of d) out = .ok [quoteNames d s] ↔ p.Clean) := by
  obtain ⟨s, hs, rfl⟩ := checkGenerated_eq_ok_iff.1 h
  refine ⟨s, hs, rfl, fun hread => ?_, fun p hp => ?_⟩
  · rw [checkGenerated_eq_ok_iff]
    exact ⟨quoteNames d s, hread, by rw [quoteNames_quoteNames]⟩
  · rw [hp]
    exact p.parseAll_text_iff

/-- A delimiter inside an identifier is doubled, and the select that is written is clean: it is read
back and passes the check unchanged. -/
theorem checkGenerated_readBack_iff_quoted :
    let sql := "SELECT \"a\"\"b\" FROM t"
    let out := "SELECT \"a\"\"b\" FROM \"t\""
    checkGenerated sql .duckdb "s" = .ok out ∧
      ∃ (s : Statement) (p : PlainSelect (.of (some .duckdb))),
        parseAll (.of (some .duckdb)) sql = .ok [s] ∧ quoteNames .duckdb s = p.statement ∧
          out = p.statement.text ∧ p.Clean ∧
          parseAll (.of (some .duckdb)) out = .ok [p.statement] ∧
          checkGenerated out .duckdb "s" = .ok out := by
  intro sql out
  let p : PlainSelect (.of (some .duckdb)) :=
    { item := ⟨.column ⟨"a\"b", '"', rfl⟩ [], none, nofun⟩
      items := []
      tables := [⟨⟨"t", '"', rfl⟩, [], none, nofun⟩] }
  have hok : checkGenerated sql .duckdb "s" = .ok out := toOption_eq_some.1 (by decide +kernel)
  have hlex : lex (.of (some .duckdb)) sql =
      some [bareWord "SELECT", quotedWord '"' "a\"b", bareWord "FROM", bareWord "t"] := by
    decide +kernel
  obtain ⟨s, hs, hquoted⟩ : ∃ s, parseAll (.of (some .duckdb)) sql = .ok [s] ∧
      quoteNames .duckdb s = p.statement :=
    ⟨_, (parseAll_of_lex hlex).trans rfl, rfl⟩
  -- a doubled delimiter is one character of the name
  have hclean : p.Clean := by decide +kernel
  obtain ⟨s', hs', htext, hagain, hplain⟩ := checkGenerated_readBack_iff hok
  obtain rfl : s = s' := by simpa using hs.symm.trans hs'
  have hread := (hplain p hquoted).2 hclean
  rw [hquoted] at htext
  exact ⟨hok, s, p, hs, hquoted, htext, hclean, hquoted ▸ hread, hagain hread⟩

/-- A bracket inside an identifier is written once, so the result cannot be read again. -/
theorem checkGenerated_not_readBack :
    checkGenerated "SELECT [a]]b]" .tsql "s" = .ok "SELECT [a]b]" ∧
      (∀ ss, parseAll (.of (some .tsql)) "SELECT [a]b]" ≠ .ok ss) ∧
      ∀ out, checkGenerated "SELECT [a]b]" .tsql "s" ≠ .ok out := by
  have hunread : (parseAll (.of (some .tsql)) "SELECT [a]b]").toOption = none := by
    rw [← Option.isNone_iff_eq_none]
    decide +kernel
  refine ⟨toOption_eq_some.1 (by decide +kernel), fun ss h => ?_, fun out h => ?_⟩
  · rw [h] at hunread
    exact nomatch hunread
  · obtain ⟨s, hs, -⟩ := checkGenerated_eq_ok_iff.1 h
    rw [hs] at hunread
    exact nomatch hunread

end DatasetSql
