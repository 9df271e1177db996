import DatasetSql.Statement.Literal

/-!
# Building phrases

What can be a part of a phrase by itself is one, so phrases are put together by `++` from texts,
names, literals and trees.
-/

namespace DatasetSql.Statement

open DatasetSql.Text (joined)

instance : Coe String Phrase := ⟨fun s => [.words s]⟩

instance : Coe Ident Phrase := ⟨fun i => [.words i.text]⟩

instance : Coe ObjectName Phrase := ⟨fun name => [.words (nameText name)]⟩

instance : Coe DataType Phrase := ⟨fun t => [.words t.text]⟩

instance : Coe Value Phrase := ⟨fun v => [.literal v]⟩

instance : Coe Expr Phrase := ⟨fun e => [.expr e]⟩

instance : Coe Query Phrase := ⟨fun q => [.query q]⟩

instance : Coe Source Phrase := ⟨fun s => [.source s]⟩

/-- Phrases with a text between them. -/
def between (separator : String) : List Phrase → Phrase
  | [] => []
  | [p] => p
  | p :: ps => p ++ separator ++ between separator ps

/-- Phrases between commas. -/
def commas (ps : List Phrase) : Phrase := between ", " ps

/-- Phrases between blanks, without those that say nothing. -/
def sentence (ps : List Phrase) : Phrase := between " " (ps.filter (!·.isEmpty))

/-- Expressions between commas. -/
def exprList (es : List Expr) : Phrase := commas (es.map fun e => [.expr e])

/-- A phrase with a text before it, unless there is nothing to say. -/
def afterText (text : String) (p : Phrase) : Phrase := if p.isEmpty then [] else text ++ p

/-- A phrase that is seen after the rest of the phrase it stands in. -/
def seenLate (p : Phrase) : Phrase := if p.isEmpty then [] else [.late p]

/-- A text under a condition. -/
def onlyText (condition : Bool) (text : String) : Phrase := if condition then text else ([] : Phrase)

/-- An alias with its columns. -/
def TableAlias.text (a : TableAlias) : String :=
  a.name.text ++ if a.columns.isEmpty then "" else " (" ++ joined ", " a.columns ++ ")"

/-- An alias after a relation. -/
def aliasText : Option TableAlias → String
  | some a => " AS " ++ a.text
  | none => ""

end DatasetSql.Statement
