import DatasetSql.Text.Search

/-!
# Paths

Paths are resolved by their text alone: a path is put below an absolute root, dots vanish and double
dots take back the part before them, though never the root itself.
-/

namespace DatasetSql

namespace Path

/-- The parts of a path between slashes. -/
def split : List Char → List (List Char)
  | [] => [[]]
  | c :: cs =>
    if c == '/' then [] :: split cs
    else
      match split cs with
      | part :: parts => (c :: part) :: parts
      | [] => [[c]]

/-- Follows one part from a place, which is the list of parts from the root down, in reverse. -/
def step (place : List (List Char)) (part : List Char) : List (List Char) :=
  if part = [] ∨ part = ['.'] then place
  else if part = ['.', '.'] then place.tail
  else part :: place

/-- The place that a path leads to from the root. -/
def resolve (path : List Char) : List (List Char) := ((split path).foldl step []).reverse

/-- The text of a place: its parts after a slash each, or a single slash. -/
def render (place : List (List Char)) : List Char :=
  if place.isEmpty then ['/'] else place.flatMap ('/' :: ·)

/-- A path below a root; an absolute path is below no other root. -/
def join (root path : List Char) : List Char :=
  if path.head? = some '/' then path
  else if root.isEmpty || root.getLast? = some '/' then root ++ path
  else root ++ '/' :: path

end Path

/-- The absolute path of a path below an absolute root; there is none if both are empty. The root is
meant to be absolute: no working directory is known here, so that a relative root starts at `/`, and not
where the process runs. -/
def resolvePath? (root path : String) : Option String :=
  let joined := Path.join root.toList path.toList
  if joined.isEmpty then none else some (String.ofList (Path.render (Path.resolve joined)))

end DatasetSql
