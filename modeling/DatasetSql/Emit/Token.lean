import DatasetSql.Dialect.Basic
import DatasetSql.Numeric.Shortest

/-!
# Tokens of emitted SQL

Generated SQL is a sequence of tokens that do not depend on a dialect; a dialect decides how each
is spelled. The only tokens that have no spelling are the floating-point values that are not
numbers.
-/

namespace DatasetSql.Emit

open DatasetSql.Numeric

/-- A token of emitted SQL. -/
inductive Token where
  | select | fromKw | and | not | as | on | join | inner | groupBy | orderBy | asc | desc
  | limit | offset | fetch | next | first | rows | only
  | case | when | thenKw | elseKw | endKw | inKw | between | distinct | cast | null | overKw
  | comma | dot | star | lparen | rparen
  | eq | lt | gt | lte | gte | minus | mul | div | concat
  | space | newline
  | indent (levels : Nat)
  | ident (name : String)
  | qualifiedIdent (qualifier : Option String) (name : String)
  | litInt (value : Int)
  | litFloat (value : FloatValue)
  | litString (value : String)
  | litBool (value : Bool)
  | litNull
  | functionName (name : String)
  | raw (sql : String)
deriving DecidableEq, Repr

/-- Why a token has no spelling. -/
inductive RenderError where
  | nan
  | infinite
deriving DecidableEq, Repr

/-- The wording of an error. -/
def RenderError.message : RenderError → String
  | .nan => "Cannot serialize NaN to SQL"
  | .infinite => "Cannot serialize Infinity to SQL"

/-- Numbers from `0.00001` up to sixteen places before the point have no exponent. -/
def floatLayout : FloatLayout := ⟨fun point => decide (-5 < point) && decide (point ≤ 16), ""⟩

/-- The spelling of the tokens that are the same in every dialect. -/
def Token.keyword : Token → String
  | .select => "SELECT"
  | .fromKw => "FROM"
  | .and => "AND"
  | .not => "NOT"
  | .as => "AS"
  | .on => "ON"
  | .join => "JOIN"
  | .inner => "INNER"
  | .groupBy => "GROUP BY"
  | .orderBy => "ORDER BY"
  | .asc => "ASC"
  | .desc => "DESC"
  | .limit => "LIMIT"
  | .offset => "OFFSET"
  | .fetch => "FETCH"
  | .next => "NEXT"
  | .first => "FIRST"
  | .rows => "ROWS"
  | .only => "ONLY"
  | .case => "CASE"
  | .when => "WHEN"
  | .thenKw => "THEN"
  | .elseKw => "ELSE"
  | .endKw => "END"
  | .inKw => "IN"
  | .between => "BETWEEN"
  | .distinct => "DISTINCT"
  | .cast => "CAST"
  | .null => "NULL"
  | .overKw => "OVER"
  | .comma => ","
  | .dot => "."
  | .star => "*"
  | .lparen => "("
  | .rparen => ")"
  | .eq => "="
  | .lt => "<"
  | .gt => ">"
  | .lte => "<="
  | .gte => ">="
  | .minus => "-"
  | .mul => "*"
  | .div => "/"
  | .space => " "
  | .newline => "\n"
  | _ => ""

/-- A possibly qualified name. -/
def qualifiedText (d : Dialect) (qualifier : Option String) (name : String) : String :=
  match qualifier with
  | some q => d.quoteIdentifier q ++ "." ++ d.quoteIdentifier name
  | none => d.quoteIdentifier name

/-- The spelling of a token in a dialect. -/
def Token.render (d : Dialect) : Token → Except RenderError String
  | .concat => .ok d.concatOperator
  | .indent n => .ok (String.ofList (List.replicate (2 * n) ' '))
  | .ident name => .ok (d.quoteIdentifier name)
  | .qualifiedIdent q name => .ok (qualifiedText d q name)
  | .litInt n => .ok (toString n)
  | .litFloat (.finite x) => .ok (floatLayout.text x)
  | .litFloat .nan => .error .nan
  | .litFloat (.infinite _) => .error .infinite
  | .litString s => .ok (d.quoteString s)
  | .litBool b => .ok (d.booleanText b)
  | .litNull => .ok d.nullText
  | .functionName name => .ok (Text.upper ((d.functionName? name).getD name))
  | .raw sql => .ok sql
  | t => .ok t.keyword

/-- The spelling of a sequence of tokens. -/
def render (d : Dialect) : List Token → Except RenderError String
  | [] => .ok ""
  | t :: ts => do return (← t.render d) ++ (← render d ts)

/-- An unsigned 64-bit count as the signed word that its token carries. -/
def countToken (n : Nat) : Token := .litInt (Int.bmod n wordCount)

/-- The page window `LIMIT n OFFSET m`. -/
def limitClause (limit offset : Option Nat) : List Token :=
  (limit.elim [] fun n => [.limit, .space, countToken n]) ++
    (if limit.isSome && offset.isSome then [.space] else []) ++
    (offset.elim [] fun n => [.offset, .space, countToken n])

/-- `OFFSET m ROWS`. -/
def offsetRows (m : Nat) : List Token := [.offset, .space, countToken m, .space, .rows]

/-- `FETCH NEXT n ROWS ONLY`, or `FIRST` instead of `NEXT`. -/
def fetchRows (which : Token) (n : Nat) : List Token :=
  [.fetch, .space, which, .space, countToken n, .space, .rows, .space, .only]

/-- The page window of a dialect. -/
def pageClause (d : Dialect) (limit offset : Option Nat) : List Token :=
  match d.paging with
  | .limit => limitClause limit offset
  | .offsetFetch =>
    offsetRows (offset.getD 0) ++ (limit.elim [] fun n => .space :: fetchRows .next n)
  | .fetchFirst =>
    (offset.elim [] offsetRows) ++ (if limit.isSome && offset.isSome then [.space] else []) ++
      (limit.elim [] (fetchRows .first))

end DatasetSql.Emit
