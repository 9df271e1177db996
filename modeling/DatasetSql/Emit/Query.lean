import DatasetSql.Emit.Token

/-!
# Emitted expressions and queries

The trees that the compiler builds, and the tokens they are written as. Nothing here adds
parentheses on its own: an operand that is itself an operator application is wrapped by `grouped`
where it is used.
-/

namespace DatasetSql.Emit

open DatasetSql.Numeric

/-- A literal value. -/
inductive Literal where
  | int (value : Int)
  | float (value : FloatValue)
  | string (value : String)
  | bool (value : Bool)
  | null
deriving DecidableEq, Repr

/-- A binary operator. -/
inductive BinaryOp where
  | eq | lt | gt | lte | gte | and | minus | mul | div | concat
deriving DecidableEq, Repr

/-- The direction of a sort key. -/
inductive SortDirection where
  | asc
  | desc
deriving DecidableEq, Repr

/-- A table name with an optional schema. -/
structure TableRef where
  qualifier : Option String := none
  table : String
deriving DecidableEq, Repr

mutual

/-- An emitted expression. -/
inductive Expr where
  | column (table : Option String) (name : String)
  | literal (value : Literal)
  | binary (left : Expr) (op : BinaryOp) (right : Expr)
  | function (name : String) (args : List Expr)
  | cast (operand : Expr) (type : String)
  | case (branches : List (Expr × Expr)) (otherwise : Option Expr)
  | inSubquery (operand : Expr) (query : Query) (negated : Bool)
  | between (operand low high : Expr) (negated : Bool)
  | star (table : Option String)
  | paren (inner : Expr)
  | overAll (function : Expr)
  | raw (sql : String)

/-- An emitted query; its page window is there if a limit or an offset is. -/
inductive Query where
  | mk (select : List (Expr × Option String)) (distinct : Bool) (source : Option TableExpr)
      (joins : List (TableRef × Expr)) (groupBy : List Expr)
      (orderBy : List (Expr × Option SortDirection)) (page : Option (Option Nat × Option Nat))

/-- What a query reads from. -/
inductive TableExpr where
  | table (ref : TableRef)
  | call (name : String) (args : List Expr) (asName : Option String)
  | subquery (query : Query) (asName : String)

end

instance : Inhabited Expr := ⟨.star none⟩

/-- The token of a literal. -/
def Literal.token : Literal → Token
  | .int n => .litInt n
  | .float x => .litFloat x
  | .string s => .litString s
  | .bool b => .litBool b
  | .null => .litNull

/-- The token of an operator. -/
def BinaryOp.token : BinaryOp → Token
  | .eq => .eq
  | .lt => .lt
  | .gt => .gt
  | .lte => .lte
  | .gte => .gte
  | .and => .and
  | .minus => .minus
  | .mul => .mul
  | .div => .div
  | .concat => .concat

/-- The token of a sort direction. -/
def SortDirection.token : SortDirection → Token
  | .asc => .asc
  | .desc => .desc

/-- `AS alias`, with a blank before it. -/
def aliasTokens : Option String → List Token
  | some asName => [.space, .as, .space, .ident asName]
  | none => []

/-- A table qualifier and a dot. -/
def qualifierTokens : Option String → List Token
  | some table => [.ident table, .dot]
  | none => []

/-- Sequences with a separator between neighbours. -/
def separated (sep : List Token) : List (List Token) → List Token
  | [] => []
  | [ts] => ts
  | ts :: rest => ts ++ sep ++ separated sep rest

/-- A comma and a blank. -/
def commaSpace : List Token := [.comma, .space]

/-- The table that a reference names. -/
def TableRef.tokens (t : TableRef) : List Token := [.qualifiedIdent t.qualifier t.table]

/-- `ORDER BY (SELECT NULL)`: an order that says nothing. -/
def placeholderOrder : List Token :=
  [.newline, .orderBy, .space, .lparen, .select, .space, .null, .rparen]

mutual

/-- The tokens of an expression. -/
def Expr.tokens (d : Dialect) : Expr → List Token
  | .column table name => qualifierTokens table ++ [.ident name]
  | .literal value => [value.token]
  | .binary left op right =>
    if op = .concat ∧ d.hasConcatOperator = false then
      [.functionName "CONCAT", .lparen] ++ left.tokens d ++ commaSpace ++ right.tokens d ++
        [.rparen]
    else left.tokens d ++ [.space, op.token, .space] ++ right.tokens d
  | .function name args =>
    [.functionName name, .lparen] ++ separated commaSpace (exprTokens d args) ++ [.rparen]
  | .cast operand type =>
    [.cast, .lparen] ++ operand.tokens d ++ [.space, .as, .space, .raw type, .rparen]
  | .case branches otherwise =>
    [.case] ++ branchTokens d branches ++ otherwiseTokens d otherwise ++ [.space, .endKw]
  | .inSubquery operand query negated =>
    operand.tokens d ++ (if negated then [.space, .not] else []) ++
      [.space, .inKw, .space, .lparen] ++ query.tokens d ++ [.rparen]
  | .between operand low high negated =>
    operand.tokens d ++ (if negated then [.space, .not] else []) ++ [.space, .between, .space] ++
      low.tokens d ++ [.space, .and, .space] ++ high.tokens d
  | .star table => qualifierTokens table ++ [.star]
  | .paren inner => [.lparen] ++ inner.tokens d ++ [.rparen]
  | .overAll function => function.tokens d ++ [.space, .overKw, .space, .lparen, .rparen]
  | .raw sql => [.raw sql]

/-- The tokens of each expression. -/
def exprTokens (d : Dialect) : List Expr → List (List Token)
  | [] => []
  | e :: es => e.tokens d :: exprTokens d es

/-- The tokens of the branches of a `CASE`. -/
def branchTokens (d : Dialect) : List (Expr × Expr) → List Token
  | [] => []
  | (test, value) :: bs =>
    [.space, .when, .space] ++ test.tokens d ++ [.space, .thenKw, .space] ++ value.tokens d ++
      branchTokens d bs

/-- The tokens of the last branch of a `CASE`. -/
def otherwiseTokens (d : Dialect) : Option Expr → List Token
  | none => []
  | some e => [.space, .elseKw, .space] ++ e.tokens d

/-- The tokens of each item of a select list. -/
def selectTokens (d : Dialect) : List (Expr × Option String) → List (List Token)
  | [] => []
  | (e, asName) :: items => (e.tokens d ++ aliasTokens asName) :: selectTokens d items

/-- The tokens of the joins, each on its own line. -/
def joinTokens (d : Dialect) : List (TableRef × Expr) → List Token
  | [] => []
  | (table, condition) :: js =>
    [.newline, .inner, .space, .join, .space] ++ table.tokens ++ [.space, .on, .space] ++
      condition.tokens d ++ joinTokens d js

/-- The tokens of each sort key. -/
def sortTokens (d : Dialect) : List (Expr × Option SortDirection) → List (List Token)
  | [] => []
  | (e, dir) :: keys =>
    (e.tokens d ++ dir.elim [] fun dir => [.space, dir.token]) :: sortTokens d keys

/-- The tokens of what a query reads from. -/
def sourceTokens (d : Dialect) : Option TableExpr → List Token
  | none => []
  | some t => [.newline, .fromKw, .space] ++ t.tokens d

/-- The tokens of a query. -/
def Query.tokens (d : Dialect) : Query → List Token
  | .mk select distinct source joins groupBy orderBy page =>
    [.select] ++ (if distinct then [.space, .distinct] else []) ++
      (if select.isEmpty then [] else [.newline, .indent 1]) ++
      separated [.comma, .newline, .indent 1] (selectTokens d select) ++
      sourceTokens d source ++ joinTokens d joins ++
      (if groupBy.isEmpty then []
        else [.newline, .groupBy, .space] ++ separated commaSpace (exprTokens d groupBy)) ++
      (if !orderBy.isEmpty then
          [.newline, .orderBy, .space] ++ separated commaSpace (sortTokens d orderBy)
        else if d.orderedOffset && page.isSome then placeholderOrder else []) ++
      page.elim [] fun (limit, offset) => .newline :: pageClause d limit offset

/-- The tokens of a table expression. -/
def TableExpr.tokens (d : Dialect) : TableExpr → List Token
  | .table ref => ref.tokens
  | .call name args asName =>
    [.raw name, .lparen] ++ separated commaSpace (exprTokens d args) ++ [.rparen] ++
      aliasTokens asName
  | .subquery query asName => [.lparen] ++ query.tokens d ++ [.rparen] ++ aliasTokens (some asName)

end

/-- The SQL text of an expression. -/
def Expr.sql (d : Dialect) (e : Expr) : Except RenderError String := render d (e.tokens d)

/-- The SQL text of a query. -/
def Query.sql (d : Dialect) (q : Query) : Except RenderError String := render d (q.tokens d)

/-! ## Building -/

namespace Query

/-- A query that selects some items from a source. -/
def ofSource (select : List (Expr × Option String)) (source : TableExpr)
    (joins : List (TableRef × Expr)) : Query :=
  .mk select false (some source) joins [] [] none

/-- The query with sort keys in place of its own. -/
def withOrder (keys : List (Expr × Option SortDirection)) : Query → Query
  | .mk s d src j g _ p => .mk s d src j g keys p

/-- The query capped at a number of rows. -/
def withLimit (n : Nat) : Query → Query
  | .mk s d src j g o p => .mk s d src j g o (some (some n, p.bind (·.2)))

end Query

namespace Expr

/-- A column reference without qualifier. -/
def col (name : String) : Expr := .column none name

/-- A string literal. -/
def str (s : String) : Expr := .literal (.string s)

/-- An integer literal. -/
def int (i : Int) : Expr := .literal (.int i)

/-- A null literal. -/
def null : Expr := .literal .null

/-- `COUNT(*)` -/
def countStar : Expr := .function "COUNT" [.star none]

/-- Wraps an operator application in parentheses, for use as an operand. -/
def grouped : Expr → Expr
  | e@(.binary ..) | e@(.between ..) | e@(.inSubquery ..) => .paren e
  | e => e

end Expr

end DatasetSql.Emit
