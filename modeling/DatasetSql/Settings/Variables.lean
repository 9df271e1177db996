import DatasetSql.Text.Letter

/-!
# Variables in settings

Texts in settings refer to variables of the environment as `$NAME` or `${NAME}`. A text is first cut
into pieces, then each reference is replaced by the value of its variable; values are not searched
for references.
-/

namespace DatasetSql

/-- Why settings cannot be used. -/
inductive SettingsError where
  | fileNotFound (path : String)
  | unreadable
  | malformed
  | missingVariable (name : String)
  | unsupportedDialect (name : String)
  | invalidConfig (message : String)
deriving DecidableEq, Repr

/-- What is said about an error. -/
def SettingsError.message : SettingsError → String
  | .fileNotFound path => "Config file not found: " ++ path
  | .unreadable => "Failed to read config file: "
  | .malformed => "Failed to parse config file: "
  | .missingVariable name => "Missing environment variable: " ++ name
  | .unsupportedDialect name => "Unsupported dialect: " ++ name
  | .invalidConfig message => "Invalid configuration: " ++ message

/-- Variables and their values. -/
abbrev Environment := List (String × String)

namespace Variables

/-- A piece of a text. -/
inductive Piece where
  | char (c : Char)
  | reference (name : List Char)
  /-- A reference in braces that are not closed. -/
  | unterminated (name : List Char)
deriving DecidableEq, Repr

/-- Where a scan stands: outside a reference, behind a `$`, or in a name of which the characters
were read in reverse. -/
inductive Position where
  | outside
  | behindDollar
  | braced (name : List Char)
  | bare (name : List Char)

/-- Whether a name without braces may contain this character. -/
def isNameChar (c : Char) : Bool := Text.isLetterOrNumeral c || c == '_'

/-- Cuts a text into pieces. -/
def pieces : Position → List Char → List Piece
  | .outside, [] => []
  | .outside, c :: cs =>
    if c == '$' then pieces .behindDollar cs else .char c :: pieces .outside cs
  | .behindDollar, [] => [.char '$']
  | .behindDollar, c :: cs =>
    if c == '\x7b' then pieces (.braced []) cs
    else if isNameChar c then pieces (.bare [c]) cs
    else if c == '$' then .char '$' :: pieces .behindDollar cs
    else .char '$' :: .char c :: pieces .outside cs
  | .braced name, [] => [.unterminated name.reverse]
  | .braced name, c :: cs =>
    if c == '\x7d' then .reference name.reverse :: pieces .outside cs
    else pieces (.braced (c :: name)) cs
  | .bare name, [] => [.reference name.reverse]
  | .bare name, c :: cs =>
    if isNameChar c then pieces (.bare (c :: name)) cs
    else if c == '$' then .reference name.reverse :: pieces .behindDollar cs
    else .reference name.reverse :: .char c :: pieces .outside cs

/-- The text that a piece stands for. -/
def Piece.resolve (env : Environment) : Piece → Except SettingsError (List Char)
  | .char c => .ok [c]
  | .reference name =>
    match env.lookup (String.ofList name) with
    | some value => .ok value.toList
    | none => .error (.missingVariable (String.ofList name))
  | .unterminated name =>
    .error (.invalidConfig
      ("unterminated variable reference '$\x7b" ++ String.ofList name ++ "'"))

/-- The text that pieces stand for; the first that cannot be resolved is the error. -/
def resolveAll (env : Environment) : List Piece → Except SettingsError (List Char)
  | [] => .ok []
  | p :: ps => do
    let text ← p.resolve env
    return text ++ (← resolveAll env ps)

/-- The variables that pieces refer to. -/
def names (ps : List Piece) : List String :=
  ps.filterMap fun
    | .reference name => some (String.ofList name)
    | .char _ | .unterminated _ => none

end Variables

/-- A text with its variables replaced. -/
def expandVariables (env : Environment) (s : String) : Except SettingsError String := do
  return String.ofList (← Variables.resolveAll env (Variables.pieces .outside s.toList))

end DatasetSql
