import DatasetSql.CommandLine.Command
import DatasetSql.Edit.Conversion
import DatasetSql.Settings.Basic

/-!
# Running a command

A command sees the environment, the files and the standard input, and gives one text: what is
printed, or what is said about an error. Settings are read first, whether or not they are used.
-/

namespace DatasetSql.CommandLine

open Settings (FileContent)

/-- What a command can see. -/
structure World where
  env : Environment := []
  /-- The working directory, which a relative directory of files is in. -/
  directory : String := "/"
  files : String → FileContent := fun _ => .missing
  stdin : FileContent := .text ""

/-- What comes of running the program. -/
inductive Outcome where
  /-- A text is printed. -/
  | printed (text : String)
  /-- An error is reported. -/
  | failed (message : String)
  /-- The arguments make no sense. -/
  | misused
deriving DecidableEq, Repr

/-- The exit code. -/
def Outcome.code : Outcome → Nat
  | .printed _ => 0
  | .failed _ => 1
  | .misused => 2

/-- What is printed. -/
def Outcome.output : Outcome → String
  | .printed text => text ++ "\n"
  | .failed _ | .misused => ""

/-- What is reported. -/
def Outcome.report : Outcome → String
  | .failed message => message
  | .printed _ | .misused => ""

/-- What a command gives: a text to print, or a message. -/
abbrev Result := Except String String

/-- The text of an input. -/
def World.read (w : World) (input : String) : Result :=
  if input == "-" then
    match w.stdin with
    | .text content => .ok content
    | .missing | .unreadable => .error "Error reading stdin: not a text"
  else
    match w.files input with
    | .text content => .ok content
    | .missing => .error ("Error reading file '" ++ input ++ "': no such file")
    | .unreadable => .error ("Error reading file '" ++ input ++ "': not a text")

/-- A path from the working directory. -/
def World.absolute (w : World) (path : String) : String :=
  String.ofList (Path.join w.directory.toList path.toList)

/-- The last part of a path. -/
def fileName (path : String) : List Char :=
  let parts := (path.toList.splitOnP (· == '/')).filter fun p => p ≠ [] ∧ p ≠ ['.']
  parts.getLast?.getD []

/-- What follows the last dot of a file's name, unless it is the first character. -/
def extension? (path : String) : Option String :=
  let reversed := (fileName path).reverse
  match reversed.span (· ≠ '.') with
  | (_, []) | (_, [_]) => none
  | (ext, _) => if fileName path = ['.', '.'] then none else some (String.ofList ext.reverse)

/-- The format of a document, by its path. -/
def formatOf (path : String) : DocumentFormat :=
  if (extension? path).any (Text.eqIgnoreCase · "toml") then .toml else .json

/-- A result whose error has a text in front. -/
def labelled {ε α : Type} (label : String) (message : ε → String) : Except ε α → Except String α
  | .ok a => .ok a
  | .error e => .error (label ++ message e)

/-- Compiles a schema document. -/
def runCompile (w : World) (s : Settings) (kind : QueryKind) (input : String)
    (dialect : Option Dialect) (root : Option String) : Result := do
  let options ← labelled "Invalid settings: " SettingsError.message (s.compileOptions w.env)
  let options := { options with
    dialect := dialect.orElse fun _ => options.dialect
    datasetRoot := w.absolute (root.getD options.datasetRoot) }
  let text ← w.read input
  let schema ← labelled ("Invalid schema '" ++ input ++ "': ") SchemaError.message
    (Schema.parse (formatOf input) text)
  labelled "Compilation error: " CompileError.message <|
    match kind with
    | .full => schema.compile options
    | .head rows => schema.compileHead options rows
    | .count => schema.compileCount options

/-- Adds the mappings of the arguments, `name=target` each, to those of the settings. -/
def addMappings (entries : List (String × String)) :
    List String → Except String (List (String × String))
  | [] => .ok entries
  | text :: rest =>
    match Text.splitOnce '=' text with
    | some (name, target) => addMappings (Settings.setMapping (Text.trim name) target entries) rest
    | none => .error ("Invalid mapping '" ++ text ++ "': expected NAME=TARGET")

/-- Replaces tables. -/
def runReplace (w : World) (s : Settings) (input : String) (mappings : List String)
    (dialect : Dialect) : Result := do
  let entries ← addMappings s.mappings mappings
  let mapping ← labelled "" EditError.message (TableMapping.read entries (some dialect))
  let sql ← w.read input
  labelled "Error: " EditError.message (replaceTables sql mapping dialect)

/-- Moves a statement to another dialect. -/
def runConvert (w : World) (input : String) (target : Dialect) (source : Option Dialect) : Result := do
  let sql ← w.read input
  labelled "Error: " EditError.message (convertSql sql target source)

/-- Lists the tables of a text, one a line. -/
def runTables (w : World) (input : String) (dialect : Dialect) : Result := do
  let sql ← w.read input
  let names ← labelled "Error: " EditError.message (tableNames sql (some dialect))
  return Text.joined "\n" names

/-- The name and the version of the program. -/
def versionText : String := "quarry 0.1.0"

/-- How the program is used. -/
def usageText : String :=
  "Usage: quarry compile|head|count <schema|-> [-d DIALECT] [--dataset-root DIR] [-n ROWS]\n" ++
  "       quarry rewrite <sql|-> [-m NAME=TARGET]... [-d DIALECT]\n" ++
  "       quarry transpile <sql|-> -t DIALECT [-f DIALECT]\n" ++
  "       quarry tables <sql|-> [-d DIALECT]"

/-- Runs a command with settings. -/
def Command.runWith (w : World) (s : Settings) : Command → Result
  | .compile kind input dialect root => runCompile w s kind input dialect root
  | .replace input mappings dialect => runReplace w s input mappings dialect
  | .convert input target source => runConvert w input target source
  | .tables input dialect => runTables w input dialect
  | .version => .ok versionText
  | .help => .ok usageText

/-- Runs a command; requests about the program itself need no settings. -/
def Command.run (w : World) (c : Command) : Result :=
  match c.input? with
  | none => c.runWith w {}
  | some _ => do
    let s ← labelled "Error loading settings: " SettingsError.message (Settings.load w.env w.files)
    c.runWith w s

/-- Runs the program. -/
def run (w : World) (args : List String) : Outcome :=
  match Command.parse? args with
  | none => .misused
  | some c =>
    match c.run w with
    | .ok text => .printed text
    | .error message => .failed message

/-- The files that the program may look at. -/
def neededFiles (env : Environment) (args : List String) : List String :=
  Settings.places env ++ ((Command.parse? args).bind (·.input?)).toList

end DatasetSql.CommandLine
