/-!
# Finding and replacing

Plain searches from the left: cutting a text at the first occurrence of a character, and replacing
every occurrence of a pattern, the leftmost first and none overlapping another.
-/

namespace DatasetSql.Text

/-- The text before and after the first occurrence of a character. -/
def splitOnce (sep : Char) (s : String) : Option (String × String) :=
  match s.toList.span (· != sep) with
  | (_, []) => none
  | (before, _ :: after) => some (String.ofList before, String.ofList after)

/-- Replaces occurrences of a nonempty pattern, once `skip` characters of the current occurrence
have been passed over. -/
def replaceFrom (pattern replacement : List Char) : Nat → List Char → List Char
  | _, [] => []
  | skip + 1, _ :: cs => replaceFrom pattern replacement skip cs
  | 0, c :: cs =>
    if pattern.isPrefixOf (c :: cs) then
      replacement ++ replaceFrom pattern replacement (pattern.length - 1) cs
    else c :: replaceFrom pattern replacement 0 cs

/-- Replaces every occurrence of a nonempty pattern, scanning from the left. -/
def replaceAll (pattern replacement s : String) : String :=
  String.ofList (replaceFrom pattern.toList replacement.toList 0 s.toList)

/-- Writes a delimiter inside a text twice. -/
def doubled (delimiter : Char) (s : String) : String :=
  String.ofList (s.toList.flatMap fun c => if c == delimiter then [c, c] else [c])

/-- A text between two delimiters, the closing one doubled inside. -/
def enclosed (opening closing : Char) (s : String) : String :=
  String.singleton opening ++ doubled closing s ++ String.singleton closing

/-- The first occurrences of the elements of a list. -/
def firstOccurrences {α : Type} [BEq α] (xs : List α) : List α :=
  xs.foldl (fun seen x => if seen.contains x then seen else seen ++ [x]) []

/-- The texts with a separator between neighbours. -/
def joined (sep : String) (parts : List String) : String :=
  String.intercalate sep parts

end DatasetSql.Text
