import DatasetSql.Toml.Quoted
import DatasetSql.Toml.Scalar
import DatasetSql.Toml.Tree

/-!
# Reading TOML

A document is a sequence of lines: assignments, headers, comments. Values may go over several lines
inside brackets and braces.
-/

namespace DatasetSql.Toml

/-! ## Blanks and lines -/

/-- Passes over blanks on a line. -/
def skipBlanks (cs : List Char) : List Char := cs.dropWhile fun c => c == ' ' || c == '\t'

/-- Passes over blanks, line breaks and comments; the flag says that a comment is being read. A
comment holds plain characters only. -/
def skipLines : Bool → List Char → Option (List Char)
  | _, [] => some []
  | _, '\n' :: rest => skipLines false rest
  | _, '\r' :: '\n' :: rest => skipLines false rest
  | true, c :: rest => if isPlain c then skipLines true rest else none
  | false, c :: rest =>
    if c == ' ' || c == '\t' then skipLines false rest
    else if c == '#' then skipLines true rest
    else some (c :: rest)

/-- Passes over the rest of a line, on which only a comment may stand. -/
def endLine (cs : List Char) : Option (List Char) :=
  match skipBlanks cs with
  | [] => some []
  | '\n' :: rest => some rest
  | '\r' :: '\n' :: rest => some rest
  | '#' :: rest =>
    match rest.span isPlain with
    | (_, []) => some []
    | (_, '\n' :: rest) => some rest
    | (_, '\r' :: '\n' :: rest) => some rest
    | _ => none
  | _ => none

/-! ## Keys -/

/-- How deep a key may reach, and how deep arrays and inline tables may be nested. -/
def maxDepth : Nat := 80

/-- Whether a key without quotes may contain this character. -/
def isKeyChar (c : Char) : Bool := c.isAlphanum || c == '_' || c == '-'

/-- Reads one part of a key. -/
def keyPart? : List Char → Option (String × List Char)
  | '"' :: rest => (basicText? rest).map fun (text, rest) => (String.ofList text, rest)
  | '\'' :: rest => (literalText? rest).map fun (text, rest) => (String.ofList text, rest)
  | cs =>
    let (name, rest) := cs.span isKeyChar
    if name.isEmpty then none else some (String.ofList name, rest)

/-- Reads the parts of a key between dots, with blanks around them: all but the last, and the last.
There may be at most so many. -/
def keyFrom? : Nat → List Char → Option (List String × String × List Char)
  | 0, _ => none
  | depth + 1, cs => do
    let (name, rest) ← keyPart? (skipBlanks cs)
    match skipBlanks rest with
    | '.' :: rest =>
      let (path, key, rest) ← keyFrom? depth rest
      return (name :: path, key, rest)
    | rest => return ([], name, rest)

/-- Reads a key: all of its parts but the last, and the last. -/
def key? (cs : List Char) : Option (List String × String × List Char) := keyFrom? maxDepth cs

/-! ## Values -/

mutual

/-- Reads a value; the fuel bounds the number of its parts, `depth` how deep they may be nested. -/
def value? : Nat → Nat → List Char → Option (Value × List Char)
  | 0, _, _ => none
  | fuel + 1, depth, cs =>
    match cs with
    | '[' :: rest =>
      if depth = 0 then none
      else do
        let (items, rest) ← items? fuel (depth - 1) rest
        return (.array items, rest)
    | '\x7b' :: rest =>
      if depth = 0 then none
      else do
        let (entries, rest) ← inline? fuel (depth - 1) rest
        return (.table (← tableOf? entries), rest)
    | '"' :: _ | '\'' :: _ => do
      let (text, rest) ← quotedText? cs
      return (.string (String.ofList text), rest)
    | cs => do
      let (word, rest) := splitWord cs
      return (← wordValue? word, rest)

/-- Reads the items of an array up to its bracket; a comma may stand behind the last. -/
def items? : Nat → Nat → List Char → Option (List Value × List Char)
  | 0, _, _ => none
  | fuel + 1, depth, cs => do
    match ← skipLines false cs with
    | ']' :: rest => return ([], rest)
    | cs =>
      let (item, rest) ← value? fuel depth cs
      match ← skipLines false rest with
      | ',' :: rest =>
        let (items, rest) ← items? fuel depth rest
        return (item :: items, rest)
      | ']' :: rest => return ([item], rest)
      | _ => none

/-- Reads the assignments of an inline table up to its brace; a comma may stand behind the last. -/
def inline? : Nat → Nat → List Char → Option (List Assignment × List Char)
  | 0, _, _ => none
  | fuel + 1, depth, cs => do
    match ← skipLines false cs with
    | '\x7d' :: rest => return ([], rest)
    | cs =>
      let (entry, rest) ← assignment? fuel depth cs
      match ← skipLines false rest with
      | ',' :: rest =>
        let (entries, rest) ← inline? fuel depth rest
        return (entry :: entries, rest)
      | '\x7d' :: rest => return ([entry], rest)
      | _ => none

/-- Reads a key, an equals sign and a value. -/
def assignment? : Nat → Nat → List Char → Option (Assignment × List Char)
  | 0, _, _ => none
  | fuel + 1, depth, cs => do
    match ← key? cs with
    | (path, key, '=' :: rest) =>
      let (value, rest) ← value? fuel depth (skipBlanks rest)
      return (⟨path, key, value⟩, rest)
    | _ => none

end

/-! ## Documents -/

/-- Reads a header after its first bracket. -/
def header? (cs : List Char) : Option (Section × List Char) :=
  match cs with
  | '[' :: cs => do
    match ← key? cs with
    | (path, key, ']' :: ']' :: rest) => return (⟨true, path, key, []⟩, ← endLine rest)
    | _ => none
  | cs => do
    match ← key? cs with
    | (path, key, ']' :: rest) => return (⟨false, path, key, []⟩, ← endLine rest)
    | _ => none

/-- Reads a document: the assignments before the first header, and the sections. The fuel bounds the
number of lines. -/
def lines? : Nat → List Char → Option (List Assignment × List Section)
  | 0, _ => none
  | fuel + 1, cs => do
    match ← skipLines false cs with
    | [] => return ([], [])
    | '[' :: rest =>
      let (head, rest) ← header? rest
      let (body, sections) ← lines? fuel rest
      return ([], { head with body } :: sections)
    | cs =>
      let (entry, rest) ← assignment? (2 * cs.length + 4) maxDepth cs
      let (body, sections) ← lines? fuel (← endLine rest)
      return (entry :: body, sections)

/-- A text without the mark that may precede it. -/
def dropMark : List Char → List Char
  | '\ufeff' :: cs => cs
  | cs => cs

/-- Reads a document. -/
def parse? (text : String) : Option Table := do
  let cs := dropMark text.toList
  let (top, sections) ← lines? (cs.length + 1) cs
  documentOf? top sections

end DatasetSql.Toml
