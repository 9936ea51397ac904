import Formwork.Config
import Formwork.Schema.Reader

/-! # Checking schemas

What a document must satisfy beyond its form: field names do not repeat, unless the
configuration lets the last declaration win, and no field's condition reads the field
itself.
-/

namespace Formwork

/-- Why a schema is refused. -/
inductive SchemaError where
  | notAnObject
  | invalid (issues : List Issue)
  | duplicateFields (names : List String)
  | selfReference (field : String)
  /-- The file is missing. -/
  | missingFile
  /-- The file is no JSON document. -/
  | invalidJson
  /-- The path leads to a directory. -/
  | isDirectory
  /-- The file holds no text. -/
  | notText
  /-- A whole number in the file has too many digits. -/
  | longNumber
  /-- Lists and objects in the file are nested too deep. -/
  | tooDeep
  deriving Repr, DecidableEq

namespace SchemaError

/-- The wording of an error. Where it would name a file or quote a foreign message it
    ends before that. -/
def message : SchemaError → String
  | .notAnObject => "Schema document must be a JSON object"
  | .invalid _ => "Invalid schema"
  | .duplicateFields names =>
      "Duplicate field names in schema: " ++ ", ".intercalate names
  | .selfReference field => "Field '" ++ field ++ "' has a condition that references itself"
  | .missingFile => "Schema file not found"
  | .invalidJson => "Invalid JSON in schema file"
  | .isDirectory => "Is a directory"
  | .notText => "Not a text"
  | .longNumber => "Number with too many digits"
  | .tooDeep => "Nested too deep"

end SchemaError

namespace Schema

/-- The names that more than one field has, each once, sorted. -/
def repeatedNames (schema : Schema) : List String :=
  Names.sorted ((Names.distinct schema.fieldNames).filter fun name =>
    1 < schema.fieldNames.count name)

/-- The first field whose condition reads the field itself. -/
def selfReferring? (schema : Schema) : Option String :=
  (schema.fields.find? fun field => match field.condition with
    | some condition => condition.references.contains field.name
    | none => false).map (·.name)

/-- Accept a schema, or say what is wrong with it. -/
def check (config : Config) (schema : Schema) : Except SchemaError Unit :=
  if !schema.repeatedNames.isEmpty && config.duplicates = .reject then
    .error (.duplicateFields schema.repeatedNames)
  else match schema.selfReferring? with
    | some name => .error (.selfReference name)
    | none => .ok ()

def checkNotices (config : Config) (schema : Schema) : List Notice :=
  if !schema.repeatedNames.isEmpty && config.duplicates = .lastWins then
    [.repeatedNames schema.repeatedNames]
  else []

/-- A schema from a document, checked. -/
def parseBy (scheme : ReadingScheme) (config : Config) : Value → Except SchemaError Schema
  | .object document => match ofEntries scheme document with
      | .read schema => (schema.check config).map fun _ => schema
      | .refused issues => .error (.invalid issues)
  | _ => .error .notAnObject

def parse (config : Config) : Value → Except SchemaError Schema := parseBy {} config

/-- What reading and checking a document gives notice of. -/
def parseNotices (config : Config) : Value → List Notice
  | .object document => match ofEntries {} document with
      | .read schema => schema.checkNotices config
      | .refused _ => []
  | _ => []

end Schema

end Formwork
