import DatasetSql.Dialect.Basic
import DatasetSql.Numeric.Power

/-!
# Arguments

A command takes files as plain arguments and options that each have a value: `--name value`,
`--name=value`, `-n value`, `-nvalue` or `-n=value`. A value of its own does not start with a dash,
except for a dash alone. After `--` every argument is plain.
-/

namespace DatasetSql.CommandLine

/-- An option of a command. -/
structure OptionSpec where
  /-- The name after two dashes. -/
  long : String
  /-- The letter after one dash. -/
  short : Option Char := none
  /-- Whether it may be given more than once. -/
  repeatable : Bool := false
  /-- Whether a value makes sense. -/
  accepts : String → Bool := fun _ => true

/-- What cannot be done with arguments. -/
inductive Stop where
  /-- They ask for help. -/
  | help
  /-- They do not fit the command. -/
  | misuse
deriving DecidableEq, Repr

/-- Arguments that have been told apart. -/
structure Arguments where
  plain : List String := []
  /-- Names of options and their values, in order. -/
  options : List (String × String) := []
deriving DecidableEq, Repr

namespace Arguments

/-- The values of an option. -/
def values (a : Arguments) (long : String) : List String :=
  (a.options.filter (·.1 == long)).map (·.2)

/-- The value of an option. -/
def value? (a : Arguments) (long : String) : Option String := (a.values long).head?

/-- Adds a plain argument; there may be only one, and it is not empty. -/
def addPlain (a : Arguments) (text : String) : Except Stop Arguments :=
  if a.plain.isEmpty && text ≠ "" then .ok { a with plain := [text] } else .error .misuse

/-- Adds the value of an option. -/
def addOption (a : Arguments) (o : OptionSpec) (value : String) : Except Stop Arguments :=
  if !o.accepts value || (!o.repeatable && (a.value? o.long).isSome) then .error .misuse
  else .ok { a with options := a.options ++ [(o.long, value)] }

end Arguments

/-- What an argument is by its form. -/
inductive Form where
  /-- Two dashes alone. -/
  | escape
  | long (name : String) (value : Option String)
  | short (letter : Char) (value : Option String)
  | plain (text : String)
deriving DecidableEq, Repr

/-- The form of an argument. -/
def formOf (text : String) : Form :=
  match text.toList with
  | ['-', '-'] => .escape
  | '-' :: '-' :: rest =>
    let (name, value) := rest.span (· ≠ '=')
    .long (String.ofList name)
      (match value with
        | _ :: value => some (String.ofList value)
        | [] => none)
  | '-' :: letter :: rest =>
    .short letter
      (match rest with
        | [] => none
        | '=' :: value => some (String.ofList value)
        | value => some (String.ofList value))
  | _ => .plain text

/-- The option that an argument names. -/
def optionOf? (specs : List OptionSpec) : Form → Option (OptionSpec × Option String)
  | .long name value => (specs.find? (·.long == name)).map (·, value)
  | .short letter value => (specs.find? (·.short == some letter)).map (·, value)
  | .escape | .plain _ => none

/-- Whether an argument asks for help. -/
def asksForHelp : Form → Bool
  | .long name value => name == "help" && value.isNone
  | .short letter _ => letter == 'h'
  | .escape | .plain _ => false

/-- Tells arguments apart: `pending` is an option that waits for its value. -/
def scan (specs : List OptionSpec) :
    Option OptionSpec → Arguments → List String → Except Stop Arguments
  | none, done, [] => .ok done
  | some _, _, [] => .error .misuse
  | some o, done, text :: rest =>
    match formOf text with
    | .plain value => do scan specs none (← done.addOption o value) rest
    | _ => .error .misuse
  | none, done, text :: rest =>
    match formOf text with
    | .plain value => do scan specs none (← done.addPlain value) rest
    | .escape => rest.foldlM Arguments.addPlain done
    | form =>
      if asksForHelp form then .error .help
      else
        match optionOf? specs form with
        | none => .error .misuse
        | some (o, none) => scan specs (some o) done rest
        | some (o, some value) => do scan specs none (← done.addOption o value) rest

/-- An unsigned number of 64 bits in decimal, with or without a plus sign. -/
def word? (text : String) : Option Nat :=
  let digits := match text.toList with
    | '+' :: cs => cs
    | cs => cs
  if digits.isEmpty || !digits.all Char.isDigit then none
  else
    let n := digits.foldl (fun n c => n * 10 + (c.toNat - 48)) 0
    if n < Numeric.wordCount then some n else none

end DatasetSql.CommandLine
