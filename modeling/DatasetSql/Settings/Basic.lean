import DatasetSql.Compile.Query
import DatasetSql.Edit.Mapping
import DatasetSql.Schema.Decode

/-!
# Settings

Defaults for compiling and mappings of tables, kept in a TOML file. The file is looked for at the
place that the environment names, then in the working directory, then among the user's settings.
-/

namespace DatasetSql

open Json (Data)

/-- Defaults for compiling, as they are written. -/
structure CompileSettings where
  /-- A dialect by name or alias. -/
  dialect : Option String := none
  /-- The directory of files; it may refer to variables of the environment. -/
  datasetRoot : Option String := none
  headRows : Option Nat := none
deriving DecidableEq, Repr

/-- The settings of the program. -/
structure Settings where
  compile : CompileSettings := {}
  /-- Names of tables and what they stand for, by name. -/
  mappings : List (String × String) := []
deriving DecidableEq, Repr

namespace Settings

/-! ## Reading -/

/-- A record of texts with its keys. -/
def texts? : Data → Option (List (String × String))
  | .record fields => fields.mapM fun (key, value) => do return (← key, ← Decode.string? value)
  | _ => none

/-- The defaults for compiling. -/
def compile? (data : Data) : Option CompileSettings := do
  match ← Decode.fields? .toml ["dialect", "dataset_root", "head_rows"] data with
  | [dialect, datasetRoot, headRows] =>
    return {
      dialect := ← Decode.optional? Decode.string? dialect,
      datasetRoot := ← Decode.optional? Decode.string? datasetRoot,
      headRows := ← Decode.optional? Decode.word? headRows }
  | _ => none

/-- The settings of a table. -/
def ofData? (data : Data) : Option Settings := do
  match ← Decode.fields? .toml ["compile", "mappings"] data with
  | [compile, mappings] =>
    return {
      compile := ← Decode.defaulted? {} compile? compile,
      mappings := ← Decode.defaulted? [] texts? mappings }
  | _ => none

/-- Reads settings; a preview has at least one row. -/
def parse (text : String) : Except SettingsError Settings :=
  match (Toml.parse? text).bind fun table => ofData? (Toml.Value.table table).data with
  | none => .error .malformed
  | some settings =>
    if settings.compile.headRows = some 0 then
      .error (.invalidConfig "compile.head_rows must be at least 1")
    else .ok settings

/-! ## Use -/

/-- The dialect that is set. -/
def dialect? (s : Settings) : Except SettingsError (Option Dialect) :=
  match s.compile.dialect with
  | none => .ok none
  | some name =>
    match Dialect.ofName? name with
    | some d => .ok (some d)
    | none => .error (.unsupportedDialect name)

/-- The directory of files that is set, with its variables replaced. -/
def datasetRoot? (s : Settings) (env : Environment) : Except SettingsError (Option String) :=
  match s.compile.datasetRoot with
  | none => .ok none
  | some text => some <$> expandVariables env text

/-- The variables of the environment that settings refer to. -/
def variableNames (s : Settings) : List String :=
  match s.compile.datasetRoot with
  | none => []
  | some text => Variables.names (Variables.pieces .outside text.toList)

/-- The options for compiling. -/
def compileOptions (s : Settings) (env : Environment) : Except SettingsError CompileOptions := do
  let dialect ← s.dialect?
  let root ← s.datasetRoot? env
  let default : CompileOptions := {}
  return {
    dialect, datasetRoot := root.getD default.datasetRoot,
    headRows := s.compile.headRows.getD default.headRows }

/-- The mapping of tables, read with the grammar of a dialect. -/
def tableMapping (s : Settings) (d : Option Dialect) : Except EditError TableMapping :=
  TableMapping.read s.mappings d

/-- Sets what a name stands for; the names stay in order. -/
def setMapping (name target : String) : List (String × String) → List (String × String)
  | [] => [(name, target)]
  | (k, t) :: rest =>
    if name == k then (k, target) :: rest
    else if name < k then (name, target) :: (k, t) :: rest
    else (k, t) :: setMapping name target rest

/-! ## Places -/

/-- What is found at a path. -/
inductive FileContent where
  | missing
  | unreadable
  | text (content : String)
deriving DecidableEq, Repr

/-- The variable that names a file with settings. -/
def pathVariable : String := "QUARRY_CONFIG"

/-- The file with settings in the working directory. -/
def localPath : String := "quarry.toml"

/-- The directory of the user's settings. -/
def userDirectory? (env : Environment) : Option String :=
  match (env.lookup "XDG_CONFIG_HOME").filter (·.startsWith "/") with
  | some directory => some directory
  | none => ((env.lookup "HOME").filter (· ≠ "")).map (· ++ "/.config")

/-- The file with the user's settings. -/
def userPath? (env : Environment) : Option String :=
  (userDirectory? env).map (· ++ "/quarry/config.toml")

/-- Reads the settings at a path. -/
def ofFile (files : String → FileContent) (path : String) : Except SettingsError Settings :=
  match files path with
  | .missing => .error (.fileNotFound path)
  | .unreadable => .error .unreadable
  | .text content => parse content

/-- Whether there is something at a path. -/
def isThere (files : String → FileContent) (path : String) : Bool := files path != .missing

/-- Reads the settings at the first place that has some. A file that the environment names must be
there. -/
def load (env : Environment) (files : String → FileContent) : Except SettingsError Settings :=
  match env.lookup pathVariable with
  | some path => ofFile files path
  | none =>
    match (localPath :: (userPath? env).toList).find? (isThere files) with
    | some path => ofFile files path
    | none => .ok {}

/-- The paths that are looked at for settings. -/
def places (env : Environment) : List String :=
  (env.lookup pathVariable).toList ++ localPath :: (userPath? env).toList

end Settings

end DatasetSql
