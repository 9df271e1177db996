import DatasetSql.Proofs.Composition
import DatasetSql.Proofs.Renaming

/-!
# Quoting keeps what identifiers denote

Quoting a statement is a renaming along `Ident.Quoted`: a bare identifier becomes a delimited one
that denotes the same name, and an identifier that was delimited stays as it was.
-/

namespace DatasetSql.Statement

/-- What quoting makes of an identifier for a dialect. -/
structure Ident.Quoted (d : Dialect) (i j : Ident) : Prop where
  /-- Both denote the same name. -/
  denoted : j.denoted d = i.denoted d
  /-- The delimiter is the one that was there, or else the dialect's own. -/
  delimiter : j.quote = some (i.quote.getD d.quote)
  /-- A delimited identifier is left alone. -/
  kept : i.quote.isSome → j = i

/-- An identifier that is quoted for a dialect is its quoted form. -/
theorem Ident.quoted_quoteFor (d : Dialect) (i : Ident) : i.Quoted d (i.quoteFor d) := by
  obtain ⟨value, quote⟩ := i
  cases quote with
  | none => exact ⟨rfl, rfl, fun h => by simp at h⟩
  | some q => exact ⟨rfl, rfl, fun _ => rfl⟩

/-- Quoting a second time changes nothing, for whatever dialect. -/
theorem Ident.quoteFor_quoteFor (d d' : Dialect) (i : Ident) :
    (i.quoteFor d).quoteFor d' = i.quoteFor d := by
  obtain ⟨value, quote⟩ := i
  cases quote <;> rfl

/-- What is quoted stays as it is, for whatever dialect it is quoted again. -/
theorem quoteNames_quoteNames (d d' : Dialect) (s : Statement) :
    quoteNames d' (quoteNames d s) = quoteNames d s := by
  have hpass : (naming (Ident.quoteFor d') id).afterNaming (Ident.quoteFor d) id =
      naming (Ident.quoteFor d) id := by
    unfold Pass.afterNaming naming
    congr 1
    · exact funext (Ident.quoteFor_quoteFor d d')
    · exact funext fun e => congrArg (Expr.mapName id) (Expr.mapName_id e)
  -- two passes over the names are one, and a quoted name is left alone
  have htwice : ((s.pass (naming (Ident.quoteFor d) id)).pass (naming (Ident.quoteFor d') id)) =
      s.pass ((naming (Ident.quoteFor d') id).afterNaming (Ident.quoteFor d) id) := by
    apply Statement.pass_naming
    intro i
    rfl
  rw [quoteNames, quoteNames, ← naming_id, ← naming_id, htwice, hpass]

/-- Quoting changes identifiers only and never what they denote. Calls and table functions keep
their names, and so does every identifier that was delimited before. -/
theorem quoteNames_renamed (d : Dialect) (s : Statement) :
    s.Renamed (Ident.Quoted d) (quoteNames d s) :=
  Statement.renamed_pass (Ident.quoted_quoteFor d) s

end DatasetSql.Statement
