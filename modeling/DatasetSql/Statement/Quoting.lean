import DatasetSql.Dialect.Basic
import DatasetSql.Statement.Pass

/-!
# Quoting identifiers

A bare identifier is folded with the dialect's case rule before it is quoted, which is how the
database itself would read it. A quoted identifier keeps its text, so quoting twice is quoting once.
-/

namespace DatasetSql.Statement

/-- Folds and quotes a bare identifier. -/
def Ident.quoteFor (d : Dialect) (i : Ident) : Ident :=
  match i.quote with
  | none => ⟨d.foldIdentifier i.value, some d.quote⟩
  | some _ => i

/-- Exchanges the delimiter of a quoted identifier. -/
def Ident.requoteFor (d : Dialect) (i : Ident) : Ident :=
  match i.quote with
  | some q => if q == '"' || q == '`' || q == '[' then { i with quote := some d.quote } else i
  | none => i

/-- The name that an identifier denotes. -/
def Ident.denoted (d : Dialect) (i : Ident) : String :=
  if i.quote.isNone then d.foldIdentifier i.value else i.value

/-- Folds and quotes every bare identifier for a dialect. -/
def quoteNames (d : Dialect) (s : Statement) : Statement :=
  s.pass { ident := Ident.quoteFor d }

/-- Gives quoted identifiers the delimiters of a dialect. -/
def requoteNames (d : Dialect) (s : Statement) : Statement :=
  s.pass { ident := Ident.requoteFor d }

end DatasetSql.Statement
