import DatasetSql.CommandLine.Run

/-!
# The program

Reads what a command may look at, runs it, and prints what comes of it.
-/

namespace DatasetSql.CommandLine

open Settings (FileContent)

/-- What is at a path. -/
def readContent (path : String) : IO FileContent := do
  try
    return .text (← IO.FS.readFile path)
  catch
    | .noFileOrDirectory .. => return .missing
    | _ => return .unreadable

/-- The lines that are left in a stream. -/
partial def readLines (stream : IO.FS.Stream) (before : String) : IO String := do
  let line ← stream.getLine
  if line.isEmpty then return before else readLines stream (before ++ line)

/-- The whole standard input. -/
def readStdin : IO FileContent := do
  try
    return .text (← readLines (← IO.getStdin) "")
  catch _ => return .unreadable

/-- The variables of the environment with these names. -/
def readVariables (names : List String) : IO Environment :=
  names.filterMapM fun name => do return (← IO.getEnv name).map (name, ·)

end DatasetSql.CommandLine

open DatasetSql CommandLine

/-- Runs the program with the given arguments. -/
def main (args : List String) : IO UInt32 := do
  let places ← readVariables [Settings.pathVariable, "XDG_CONFIG_HOME", "HOME"]
  let contents ← (neededFiles places args).mapM fun path => do return (path, ← readContent path)
  let files (path : String) : Settings.FileContent := (contents.lookup path).getD .missing
  let names := match Settings.load places files with
    | .ok settings => settings.variableNames
    | .error _ => []
  let env := places ++ (← readVariables names)
  let directory := (← IO.currentDir).toString
  let stdin ← if args.contains "-" then readStdin else pure (.text "")
  let outcome := run { env, directory, files, stdin } args
  IO.print outcome.output
  match outcome with
  | .misused => IO.eprintln usageText
  | .failed message => IO.eprintln message
  | .printed _ => pure ()
  return outcome.code.toUInt32
