import DatasetSql.CommandLine.Arguments

/-!
# Commands

What the program can be asked to do: compile a schema document in one of three ways, or edit a text
of SQL in one of three ways.
-/

namespace DatasetSql.CommandLine

/-- Which statement of a schema is wanted. -/
inductive QueryKind where
  | full
  | head (rows : Option Nat)
  | count
deriving DecidableEq, Repr

/-- What the program is asked to do; the input is a path, or a dash for the standard input. -/
inductive Command where
  | compile (kind : QueryKind) (input : String) (dialect : Option Dialect)
      (datasetRoot : Option String)
  | replace (input : String) (mappings : List String) (dialect : Dialect)
  | convert (input : String) (target : Dialect) (source : Option Dialect)
  | tables (input : String) (dialect : Dialect)
  | version
  | help
deriving DecidableEq, Repr

/-- The input of a command. -/
def Command.input? : Command → Option String
  | .compile _ input _ _ | .replace input _ _ | .convert input _ _ | .tables input _ => some input
  | .version | .help => none

/-- Whether a text is the name of a dialect. -/
def isDialect (text : String) : Bool := (Dialect.ofCanonical? text).isSome

/-- An option whose value is a dialect. -/
def dialectOption (long : String) (short : Char) : OptionSpec :=
  { long, short := some short, accepts := isDialect }

/-- The options of the commands that compile. -/
def compileOptions : List OptionSpec :=
  [dialectOption "dialect" 'd', { long := "dataset-root", accepts := (· ≠ "") }]

/-- The option for the number of rows. -/
def rowsOption : OptionSpec :=
  { long := "rows", short := some 'n', accepts := fun text => (word? text).isSome }

/-- The option for a mapping. -/
def mapOption : OptionSpec := { long := "map", short := some 'm', repeatable := true }

/-- The dialect that an option names. -/
def Arguments.dialect? (a : Arguments) (long : String) : Option Dialect :=
  (a.value? long).bind Dialect.ofCanonical?

/-- The only plain argument. -/
def Arguments.input (a : Arguments) : Except Stop String :=
  match a.plain with
  | [input] => .ok input
  | _ => .error .misuse

/-- A command that compiles. -/
def readCompile (kind : Arguments → QueryKind) (more : List OptionSpec) (args : List String) :
    Except Stop Command := do
  let a ← scan (compileOptions ++ more) none {} args
  return .compile (kind a) (← a.input) (a.dialect? "dialect") (a.value? "dataset-root")

/-- The command that replaces tables. -/
def readReplace (args : List String) : Except Stop Command := do
  let a ← scan [mapOption, dialectOption "dialect" 'd'] none {} args
  return .replace (← a.input) (a.values "map") ((a.dialect? "dialect").getD .duckdb)

/-- The command that moves a statement to another dialect, which must be named. -/
def readConvert (args : List String) : Except Stop Command := do
  let a ← scan [dialectOption "to" 't', dialectOption "from" 'f'] none {} args
  match a.dialect? "to" with
  | some target => return .convert (← a.input) target (a.dialect? "from")
  | none => throw .misuse

/-- The command that lists tables. -/
def readTables (args : List String) : Except Stop Command := do
  let a ← scan [dialectOption "dialect" 'd'] none {} args
  return .tables (← a.input) ((a.dialect? "dialect").getD .postgres)

/-- The names of the commands. -/
def commandNames : List String :=
  ["compile", "head", "count", "rewrite", "transpile", "tables", "help"]

/-- The request for help on nothing or on one command. -/
def readHelp : List String → Except Stop Command
  | [] => .error .help
  | [name] => .error (if commandNames.contains name then .help else .misuse)
  | _ => .error .misuse

/-- Reads a command by its name. -/
def readNamed (name : String) (args : List String) : Except Stop Command :=
  match name with
  | "compile" => readCompile (fun _ => .full) [] args
  | "head" => readCompile (fun a => .head ((a.value? "rows").bind word?)) [rowsOption] args
  | "count" => readCompile (fun _ => .count) [] args
  | "rewrite" => readReplace args
  | "transpile" => readConvert args
  | "tables" => readTables args
  | "help" => readHelp args
  | _ => .error .misuse

/-- Reads a command; `none` if the arguments make no sense. -/
def Command.parse? (args : List String) : Option Command :=
  match args with
  | [] => none
  | first :: rest =>
    match formOf first with
    | .plain name =>
      match readNamed name rest with
      | .ok c => some c
      | .error .help => some .help
      | .error .misuse => none
    | .long "version" none | .short 'V' _ => some .version
    | form => if asksForHelp form then some .help else none

end DatasetSql.CommandLine
