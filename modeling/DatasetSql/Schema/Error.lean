import DatasetSql.Transform.Rule

/-!
# Schema errors

Why a description of a dataset is refused. Everything is checked when a schema is built; a schema
that exists has passed.
-/

namespace DatasetSql

/-- Why a schema is refused. -/
inductive SchemaError where
  | unsupportedTransformation (name : String)
  | invalidParams (kind : TransformationKind) (param message : String)
  | invalidGroupBy (schema column : String)
  | unsupportedSource (name : String)
  | duplicateColumn (schema column : String)
  | unknownColumn (schema column : String)
  /-- An expression cannot be read, or something follows it. -/
  | invalidExpression (column expression : String) (detail : Option String)
  | invalidSchema (schema message : String)
  /-- A document cannot be decoded; the message is there if it is about one of our names. -/
  | document (message : Option String)
deriving DecidableEq, Repr

/-- What is said about an error. -/
def SchemaError.message : SchemaError → String
  | .unsupportedTransformation name => "Unsupported transformation type: " ++ name
  | .invalidParams kind param message =>
    "Invalid parameter '" ++ param ++ "' for transformation '" ++ kind.name ++ "': " ++ message
  | .invalidGroupBy schema column =>
    "Schema '" ++ schema ++ "' cannot group by expression column '" ++ column ++ "'"
  | .unsupportedSource name => "Unsupported source format: " ++ name
  | .duplicateColumn schema column =>
    "Duplicate column '" ++ column ++ "' in schema '" ++ schema ++ "'"
  | .unknownColumn schema column =>
    "Schema '" ++ schema ++ "' has no column named '" ++ column ++ "'"
  | .invalidExpression column expression detail =>
    "Invalid expression for column '" ++ column ++ "' (" ++ expression ++ "): " ++ detail.getD ""
  | .invalidSchema schema message => "Invalid schema '" ++ schema ++ "': " ++ message
  | .document message => "Failed to read schema document: " ++ message.getD ""

/-- A column type by name, in any ASCII case. -/
def ColumnType.read (text : String) : Except SchemaError ColumnType :=
  match ofAnyCase? text with
  | some t => .ok t
  | none =>
    .error (.document (some ("Unknown column type '" ++ Text.lowerAscii text ++ "'")))

/-- A kind of transformation by name. -/
def TransformationKind.read (text : String) : Except SchemaError TransformationKind :=
  match ofName? text with
  | some k => .ok k
  | none => .error (.unsupportedTransformation text)

end DatasetSql
