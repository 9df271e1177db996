import DatasetSql.Statement.Parser.Precedence
import DatasetSql.Statement.Parser.Type

/-!
# Readers of one level

Expressions contain queries, queries contain expressions and statements contain both. The readers of
one level are given those of one level further inside as a `Nested` and say only what a level looks
like; how deep levels go is decided where they are tied together.
-/

namespace DatasetSql.Statement

/-- The readers of one level further inside. -/
structure Nested where
  /-- Whether `PRIOR` is an operator, as it is in `CONNECT BY`. -/
  prior : Bool
  /-- An expression whose operators bind more tightly than the given strength. -/
  expr : Nat → Parser Expr
  /-- An expression in which `PRIOR` is an operator. -/
  connected : Parser Expr
  query : Parser Query
  statement : Parser Statement

namespace Parser

/-- An expression that can be an operand as it stands. -/
def tight (parts : Phrase) : Expr := .form true parts

/-- An expression that cannot be an operand as it stands. -/
def loose (parts : Phrase) : Expr := .form false parts

/-- Reads an expression without regard to what stands before it. -/
def anyExpr (r : Nested) : Parser Expr := r.expr 0

/-- Reads an expression as a phrase. -/
def exprPhrase (r : Nested) : Parser Phrase := return (← anyExpr r)

/-- Reads expressions between commas. -/
def exprs (g : Grammar) (r : Nested) : Parser (List Expr) := separated (trailingCommas g) (anyExpr r)

/-- Reads expressions between commas as a phrase. -/
def exprListPhrase (g : Grammar) (r : Nested) : Parser Phrase := return exprList (← exprs g r)

/-- Reads a clause with one expression, if its keyword comes next. -/
def exprClause (k : String) (r : Nested) : Parser Phrase := clause [k] (exprPhrase r)

/-- Reads a query as a phrase. -/
def queryPhrase (r : Nested) : Parser Phrase := return (← r.query)

/-- Whether a query comes next. -/
def peekQuery : Parser Bool := return (← peekKeyword "SELECT") || (← peekKeyword "WITH")

/-- Whether a query in parentheses comes next. -/
def peekNestedQuery : Parser Bool :=
  return (← peekSymbol "(") && ((← peekKeywordAt 1 "SELECT") || (← peekKeywordAt 1 "WITH"))

end Parser

end DatasetSql.Statement
