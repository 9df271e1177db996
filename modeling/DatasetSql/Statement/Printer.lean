import DatasetSql.Statement.Phrase

/-!
# Writing statements

The text of a statement tree: keywords in capitals, single blanks, lists separated by a comma and a
blank. Names, numbers and operators are written as they were read.
-/

namespace DatasetSql.Statement

open DatasetSql.Text (joined)

/-- The word after an offset. -/
def OffsetUnit.text : OffsetUnit → String
  | .none => ""
  | .row => " ROW"
  | .rows => " ROWS"

/-- A `FETCH` clause, with the text of its count. -/
def FetchStyle.text (count : Option String) (s : FetchStyle) : String :=
  " FETCH FIRST" ++
  (match count with
    | some n => " " ++ n ++ if s.percent then " PERCENT" else ""
    | none => "") ++
  " ROWS " ++ if s.withTies then "WITH TIES" else "ONLY"

/-- A text that is left out when there is nothing to say. -/
def optional (before : String) : Option String → String
  | some text => before ++ text
  | none => ""

mutual

/-- The text of a part of a phrase. -/
def Part.text : Part → String
  | .words s => s
  | .literal v => v.text
  | .expr e => e.text
  | .query q => q.text
  | .source s => s.text
  | .late parts => phraseText parts

/-- The text of a phrase. -/
def phraseText : List Part → String
  | [] => ""
  | p :: ps => p.text ++ phraseText ps

/-- The text of an expression. -/
def Expr.text : Expr → String
  | .ident name => name.text
  | .compound parts => nameText parts
  | .value v => v.text
  | .call name tail => nameText name ++ phraseText tail
  | .binary l operator r => l.text ++ " " ++ operator ++ " " ++ r.text
  | .subquery q => "(" ++ q.text ++ ")"
  | .form _ parts => phraseText parts

/-- The text of an expression that may be left out. -/
def exprText? : Option Expr → Option String
  | none => none
  | some e => some e.text

/-- The text of a query. -/
def Query.text : Query → String
  | .mk recursive ctes body order limit offset unit detail fetch fetched closing =>
    (if ctes.isEmpty then ""
      else (if recursive then "WITH RECURSIVE " else "WITH ") ++ joined ", " (cteTexts ctes) ++
        " ") ++
      body.text ++ (if order.isEmpty then "" else " ORDER BY " ++ phraseText order) ++
      optional " LIMIT " (exprText? limit) ++
      (exprText? offset).elim "" (fun n => " OFFSET " ++ n ++ unit.text) ++ phraseText detail ++
      fetch.elim "" (FetchStyle.text (exprText? fetched)) ++ closing

/-- The texts of common table expressions. -/
def cteTexts : List Cte → List String
  | [] => []
  | .mk asName materialized q origin :: ctes =>
    (asName.text ++ " AS " ++ materialized ++ "(" ++ q.text ++ ")" ++
      optional " FROM " (origin.map Ident.text)) :: cteTexts ctes

/-- The text of the body of a query. -/
def Body.text : Body → String
  | .select s => s.text
  | .query q => "(" ++ q.text ++ ")"
  | .setOperation l operator r => l.text ++ " " ++ operator ++ " " ++ r.text
  | .phrase parts => phraseText parts

/-- The text of a `SELECT`. -/
def Select.text : Select → String
  | .mk opening items target sources clauses =>
    "SELECT" ++ phraseText opening ++ " " ++ joined ", " (itemTexts items) ++ target ++
      (if sources.isEmpty then "" else " FROM " ++ joined ", " (sourceTexts sources)) ++
      phraseText clauses

/-- The texts of the items of a select list. -/
def itemTexts : List (Expr × Option Ident) → List String
  | [] => []
  | (e, asName) :: items => (e.text ++ optional " AS " (asName.map Ident.text)) :: itemTexts items

/-- The texts of the sources of a `FROM` clause. -/
def sourceTexts : List Source → List String
  | [] => []
  | s :: ss => s.text :: sourceTexts ss

/-- The text of a source. -/
def Source.text : Source → String
  | .mk relation joins => relation.text ++ joinTexts joins

/-- The text of a relation. -/
def Relation.text : Relation → String
  | .table name _ detail asName tail =>
    nameText name ++ phraseText detail ++ aliasText asName ++ phraseText tail
  | .derived lateral q asName =>
    (if lateral then "LATERAL " else "") ++ "(" ++ q.text ++ ")" ++ aliasText asName
  | .nested source asName => "(" ++ source.text ++ ")" ++ aliasText asName
  | .form parts asName tail => phraseText parts ++ aliasText asName ++ tail

/-- The joins after a relation. -/
def joinTexts : List Join → String
  | [] => ""
  | .mk words relation condition :: js =>
    words ++ " " ++ relation.text ++ phraseText condition ++ joinTexts js

end

end DatasetSql.Statement

namespace DatasetSql

open Statement in
/-- The text of a statement. -/
def Statement.text : Statement → String
  | .query q => q.text
  | .command parts => phraseText parts

end DatasetSql
