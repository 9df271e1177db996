/-!
# Blank characters

White space in the sense of the Unicode property, and what is defined by it: trimming a text at
both ends and cutting it into words.
-/

namespace DatasetSql.Text

/-- White space of any script. -/
def isBlank (c : Char) : Bool :=
  let n := c.toNat
  (0x9 ≤ n && n ≤ 0xd) || n == 0x20 || n == 0x85 || n == 0xa0 || n == 0x1680 ||
    (0x2000 ≤ n && n ≤ 0x200a) || n == 0x2028 || n == 0x2029 || n == 0x202f || n == 0x205f ||
    n == 0x3000

/-- The characters between the first and the last that is not blank. -/
def trimChars (cs : List Char) : List Char :=
  ((cs.dropWhile isBlank).reverse.dropWhile isBlank).reverse

/-- The text without blanks at either end. -/
def trim (s : String) : String :=
  String.ofList (trimChars s.toList)

/-- Whether a text consists of blanks only. -/
def isBlankText (s : String) : Bool :=
  s.toList.all isBlank

/-- Adds a character to the word under construction, or closes it at a blank. -/
def wordStep (c : Char) : List Char × List (List Char) → List Char × List (List Char)
  | (word, done) =>
    if isBlank c then ([], if word.isEmpty then done else word :: done)
    else (c :: word, done)

/-- The maximal runs of characters that are not blank, in order. -/
def words (s : String) : List String :=
  let (word, done) := s.toList.foldr wordStep ([], [])
  (if word.isEmpty then done else word :: done).map String.ofList

end DatasetSql.Text
