import DatasetSql.Statement.Basic

/-!
# The nodes of a statement

Every place of a statement that an edit may look at, at any depth: identifiers that refer to a
column or name a relation, expressions, relations and queries. They are listed in the order in which
they are written, a node before what is inside it. Nothing is left out: late parts stand where they
are written, and so do parts inside of late ones.
-/

namespace DatasetSql.Statement

/-- A place that an edit may look at. -/
inductive Node where
  | ident (i : Ident)
  | expr (e : Expr)
  | relation (r : Relation)
  | query (q : Query)

/-- The identifiers of a name, or of an alias that may be left out. -/
def identNodes (is : List Ident) : List Node := is.map .ident

/-- The identifier of the alias of a relation. -/
def aliasNodes (a : Option TableAlias) : List Node := identNodes (a.map TableAlias.name).toList

mutual

/-- The nodes of a part of a phrase. -/
def Part.nodes : Part → List Node
  | .words _ | .literal _ => []
  | .expr e => e.nodes
  | .query q => q.nodes
  | .source s => s.nodes
  | .late parts => phraseNodes parts

/-- The nodes of a phrase. -/
def phraseNodes : List Part → List Node
  | [] => []
  | p :: ps => p.nodes ++ phraseNodes ps

/-- The nodes of an expression. The name of a function is none. -/
def Expr.nodes : Expr → List Node
  | e@(.ident i) => .expr e :: identNodes [i]
  | e@(.compound is) => .expr e :: identNodes is
  | e@(.value _) => [.expr e]
  | e@(.call _ tail) => .expr e :: phraseNodes tail
  | e@(.binary l _ r) => .expr e :: (l.nodes ++ r.nodes)
  | e@(.subquery q) => .expr e :: q.nodes
  | e@(.form _ parts) => .expr e :: phraseNodes parts

/-- The nodes of an expression that may be left out. -/
def exprNodes? : Option Expr → List Node
  | none => []
  | some e => e.nodes

/-- The nodes of a query. -/
def Query.nodes : Query → List Node
  | q@(.mk _ ctes body order limit offset _ detail _ fetched _) =>
    .query q :: (cteNodes ctes ++ body.nodes ++ phraseNodes order ++ exprNodes? limit ++
      exprNodes? offset ++ phraseNodes detail ++ exprNodes? fetched)

/-- The nodes of common table expressions. -/
def cteNodes : List Cte → List Node
  | [] => []
  | .mk asName _ q _ :: ctes => identNodes [asName.name] ++ q.nodes ++ cteNodes ctes

/-- The nodes of the body of a query. -/
def Body.nodes : Body → List Node
  | .select s => s.nodes
  | .query q => q.nodes
  | .setOperation l _ r => l.nodes ++ r.nodes
  | .phrase parts => phraseNodes parts

/-- The nodes of a `SELECT`. -/
def Select.nodes : Select → List Node
  | .mk opening items _ sources clauses =>
    phraseNodes opening ++ itemNodes items ++ sourceNodes sources ++ phraseNodes clauses

/-- The nodes of the items of a select list. -/
def itemNodes : List (Expr × Option Ident) → List Node
  | [] => []
  | (e, asName) :: items => e.nodes ++ identNodes asName.toList ++ itemNodes items

/-- The nodes of the sources of a `FROM` clause. -/
def sourceNodes : List Source → List Node
  | [] => []
  | s :: ss => s.nodes ++ sourceNodes ss

/-- The nodes of a source. -/
def Source.nodes : Source → List Node
  | .mk relation joins => relation.nodes ++ joinNodes joins

/-- The nodes of a relation. The name of a table function is none, nor are aliases that edits leave
alone. -/
def Relation.nodes : Relation → List Node
  | r@(.table name isCall detail asName tail) =>
    .relation r :: (identNodes (if isCall then [] else name) ++ phraseNodes detail ++
      aliasNodes asName ++ phraseNodes tail)
  | r@(.derived _ q asName) => .relation r :: (q.nodes ++ aliasNodes asName)
  | r@(.nested source _) => .relation r :: source.nodes
  | r@(.form parts _ _) => .relation r :: phraseNodes parts

/-- The nodes of joins. -/
def joinNodes : List Join → List Node
  | [] => []
  | .mk _ relation condition :: js => relation.nodes ++ phraseNodes condition ++ joinNodes js

end

/-- The relation that a node is. -/
def Node.relation? : Node → Option Relation
  | .relation r => some r
  | _ => none

end DatasetSql.Statement

namespace DatasetSql

open Statement in
/-- The nodes of a statement. -/
def Statement.nodes : Statement → List Node
  | .query q => q.nodes
  | .command parts => phraseNodes parts

open Statement in
/-- The relations of a statement, at any depth. -/
def Statement.relations (s : Statement) : List Relation := s.nodes.filterMap Node.relation?

end DatasetSql
