import DatasetSql.Toml.Basic

/-!
# Building tables

The lines of a document add to a tree of tables. Where a table came from decides what may still be
added to it: a header opens a table once, a dotted key extends only tables that dotted keys made,
and a written value is closed.
-/

namespace DatasetSql.Toml

/-- How a table came to be. -/
inductive Origin where
  /-- It is the document itself or has a header of its own. -/
  | header
  /-- The header of a table inside it was read. -/
  | implied
  /-- A dotted key goes through it. -/
  | dotted
deriving DecidableEq, Repr

/-- A part of a document that is being read. -/
inductive Node where
  /-- A value that is complete. -/
  | leaf (value : Value)
  /-- Tables that headers add to, the last one first. -/
  | list (elements : List (List (String × Node)))
  | table (origin : Origin) (entries : List (String × Node))

/-- The entries of a table that is being read. -/
abbrev Entries := List (String × Node)

/-- Changes the table at the end of a path. Missing tables are made on the way, a list of tables
stands for its last one, and a dotted path goes through no table that has a header. -/
def update (dotted : Bool) (change : Origin → Entries → Option Entries) :
    List String → Origin → Entries → Option Entries
  | [], origin, entries => change origin entries
  | key :: path, _, entries =>
    match entries.lookup key with
    | none => do
      let origin := if dotted then Origin.dotted else .implied
      return entries ++ [(key, .table origin (← update dotted change path origin []))]
    | some (.table origin inner) =>
      if dotted && origin == .header then none
      else do
        return Json.put key (.table origin (← update dotted change path origin inner)) entries
    | some (.list (last :: earlier)) => do
      return Json.put key (.list ((← update dotted change path .header last) :: earlier)) entries
    | some (.list []) | some (.leaf _) => none

/-- Adds a new key to a table. -/
def addKey (dotted : Bool) (key : String) (value : Value) (origin : Origin) (entries : Entries) :
    Option Entries :=
  if (origin == .dotted) != dotted || (entries.lookup key).isSome then none
  else some (entries ++ [(key, .leaf value)])

/-- A key, the path before it, and a value. -/
structure Assignment where
  path : List String
  key : String
  value : Value

/-- Adds an assignment to a table. -/
def assign (entries : Entries) (a : Assignment) : Option Entries :=
  let dotted := !a.path.isEmpty
  update dotted (addKey dotted a.key a.value) a.path .header entries

/-- Adds assignments to a table in order. -/
def assignAll (entries : Entries) (as : List Assignment) : Option Entries := as.foldlM assign entries

/-- A header and the assignments below it. -/
structure Section where
  /-- Whether the header adds to a list of tables. -/
  repeated : Bool
  path : List String
  key : String
  body : List Assignment

/-- Defines the table of a section in the table around it. -/
def Section.define (s : Section) (_ : Origin) (entries : Entries) : Option Entries :=
  if s.repeated then
    match entries.lookup s.key with
    | none => do return Json.put s.key (.list [← assignAll [] s.body]) entries
    | some (.list elements) => do
      return Json.put s.key (.list ((← assignAll [] s.body) :: elements)) entries
    | some _ => none
  else
    match entries.lookup s.key with
    | none => do return Json.put s.key (.table .header (← assignAll [] s.body)) entries
    | some (.table .implied inner) => do
      return Json.put s.key (.table .header (← assignAll inner s.body)) entries
    | some _ => none

/-- Adds a section to a document. -/
def Section.addTo (entries : Entries) (s : Section) : Option Entries :=
  update false s.define s.path .header entries

mutual

/-- The value of a part that has been read. -/
def Node.value : Node → Value
  | .leaf v => v
  | .list elements => .array (valueElements elements).reverse
  | .table _ entries => .table (valueEntries entries)

/-- The values of a list of tables, in the order of the list. -/
def valueElements : List (List (String × Node)) → List Value
  | [] => []
  | e :: es => .table (valueEntries e) :: valueElements es

/-- The values of the entries of a table. -/
def valueEntries : List (String × Node) → Table
  | [] => []
  | (k, n) :: es => (k, n.value) :: valueEntries es

end

/-- The table that assignments make, as in an inline table. -/
def tableOf? (as : List Assignment) : Option Table := do
  return valueEntries (← assignAll [] as)

/-- The table of a document: what stands before the first header, then each section. -/
def documentOf? (top : List Assignment) (sections : List Section) : Option Table := do
  return valueEntries (← sections.foldlM Section.addTo (← assignAll [] top))

end DatasetSql.Toml
