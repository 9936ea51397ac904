import Formwork.Command.Basic
import Formwork.Library
import Formwork.Workspace.Callbacks

/-! # Running commands

Each task loads the settings and the schema first. Listing shows what the schema declares;
validating fills in a session with the built-in validators and shows what was found.
-/

namespace Formwork.Command

def version : String := "dazzle-forms 0.1.0"

/-- How many issues there are, in words. -/
def issueCount (count : Nat) : String :=
  if count = 1 then "1 validation error" else toString count ++ " validation errors"

/-- What is said about a schema that is refused, if anything is said. -/
def schemaComplaint? (path : String) (error : SchemaError) : Except Failure String :=
  match error with
  | .isDirectory => .error .schemaIsDirectory
  | .notText => .error .schemaIsNoText
  | .longNumber => .error .schemaHasLongNumber
  | .tooDeep => .error .schemaIsTooDeep
  | .invalid issues =>
      .ok (error.message ++ ": " ++ issueCount issues.length ++ " for FormSchemaSpec")
  | .missingFile => .ok (error.message ++ ": " ++ path)
  | _ => .ok error.message

def loadSchema (config : Config) (files : Files) : Attempt Schema :=
  match Schema.load {} config files.schema with
  | .ok schema => .ok schema
  | .error error => match schemaComplaint? files.schemaPath error with
      | .ok message => Attempt.complain message
      | .error failure => Attempt.fail failure

/-- The validators of a field, by name. -/
def validatorNames (field : Field) : String :=
  ", ".intercalate ((field.rules.crossField.map (·.validator)).toList
    ++ (field.rules.async.map (·.validator ++ " (async)")).toList)

def fieldTable (schema : Schema) : Table :=
  { title := schema.title
    header := ["Field", "Type", "Required", "Conditional on", "Validators"]
    rows := schema.fields.map fun field =>
      [field.name, field.type, if field.rules.required then "[green]yes[/green]" else "",
        match field.condition with
        | some condition => ", ".intercalate (Names.sorted condition.watched)
        | none => "",
        validatorNames field]
    tail := ["[dim]" ++ toString schema.fields.length ++ " field(s)[/dim]"] }

def stepFields (schema : Schema) : List (List Field) :=
  if schema.isMultiStep then schema.sections.map (·.fields) else [schema.fields]

def stepTable (schema : Schema) : Table :=
  { title := schema.title
    header := ["#", "Title", "Fields"]
    rows := ((schema.stepTitles.zip (stepFields schema)).zipIdx).map fun ((title, fields), index) =>
      [toString index, title, ", ".intercalate (fields.map (·.name))] }

def loadData (file : FileContent) : Attempt (Entries Value) :=
  match file.text with
  | .error .notUtf8 => Attempt.fail .dataIsNoText
  | .error _ => Attempt.complain "cannot read data file"
  | .ok text => match Json.parse {} text.toList with
      | .error .malformed => Attempt.complain "cannot read data file"
      | .error .longNumber => Attempt.fail .dataHasLongNumber
      | .error .tooDeep => Attempt.fail .dataIsTooDeep
      | .ok (.object values) => .ok values
      | .ok _ => Attempt.complain "data file must hold a JSON object"

/-- The number of a step as it is written on the command line. -/
def stepNumber? (text : String) : Option Int := do
  let (negative, body) := Reader.splitSign (Text.strip text.toList)
  let digits ← Reader.joinGroups? body
  if !digits.isEmpty && digits.all isAsciiDigit then
    let size : Int := digitsValue digits
    return if negative then -size else size
  else none

def schemaOfStep (schema : Schema) (step : Int) : Attempt Schema :=
  if step < 0 then Attempt.complain ("schema has no step " ++ toString step)
  else match schema.sectionSchema? step with
    | some part => .ok part
    | none => Attempt.complain ("schema has no step " ++ toString step)

/-- The built-in validators, with settings. -/
def builtinOptions (config : Config) : CompileOptions :=
  { crossField := Builtin.crossField, async := Builtin.async, config }

/-- Fill in a new session of a schema, and validate it. -/
def fillIn (schema : Schema) (options : CompileOptions) (values : Entries Value) :
    Effect Report := do
  let hooks := Workspace.callbacks (← get).depthLimit
  let session ← Workspace.openSession hooks { schema } options []
  Workspace.setValues hooks session.store values
  let outcome ← Workspace.validate session
  let workspace ← get
  return { outcome, visibility := workspace.visibilityOf session
           payload := workspace.payload session }

def examine (config : Config) (schema : Schema) (values : Entries Value) : Attempt Report :=
  match (fillIn schema (builtinOptions config) values {}).1 with
  | .ok report => .ok report
  | .error fault => Attempt.fail (.session fault)

def reportTable (schema : Schema) (report : Report) : Table :=
  { title := schema.title
    header := ["Field", "Visible", "Errors"]
    rows := report.visibility.map fun (name, visible) =>
      let messages := "; ".intercalate ((report.outcome.errors.get? name).getD [])
      [name, if visible then "yes" else "[dim]hidden[/dim]",
        if messages = "" then "" else "[red]" ++ messages ++ "[/red]"]
    tail := [if report.outcome.valid then "[green]Valid[/green]"
      else "[red]Invalid:[/red] " ++ toString report.outcome.errors.length
        ++ " field(s) with errors"] }

/-- Validate values. The code says whether they are valid. -/
def validate (config : Config) (files : Files) (step : Option Int) (asReport : Bool) :
    Attempt Result := do
  let schema ← loadSchema config files
  let values ← loadData files.data
  let target ← match step with
    | some step => schemaOfStep schema step
    | none => .ok schema
  let report ← examine config target values
  let code := if report.outcome.valid then 0 else 1
  if asReport then return ⟨code, .report report⟩
  else return ⟨code, .table (← (reportTable target report).shown)⟩

def attempt (task : Task) (files : Files) : Attempt Result := do
  let config ← match Config.load files.config with
    | .ok config => .ok config
    | .error fault => Attempt.fail (.config fault)
  match task with
  | .check => return ⟨0, .table (← (fieldTable (← loadSchema config files)).shown)⟩
  | .steps => return ⟨0, .table (← (stepTable (← loadSchema config files)).shown)⟩
  | .validate none asReport => validate config files none asReport
  | .validate (some text) asReport =>
      match stepNumber? text with
      | some step => validate config files (some step) asReport
      | none => .error ⟨2, .misuse⟩

/-- What validating values gives notice of. -/
def sessionNotices (config : Config) (files : Files) (step : Option String) : List Notice :=
  let prepared : Attempt (Schema × Entries Value) := do
    let schema ← loadSchema config files
    let values ← loadData files.data
    match step.map stepNumber? with
    | some (some number) => return (← schemaOfStep schema number, values)
    | _ => return (schema, values)
  match prepared with
  | .ok (schema, values) => (fillIn schema (builtinOptions config) values {}).2.notices
  | .error _ => []

/-- What carrying out a task gives notice of, once the settings are known. -/
def notices (task : Task) (files : Files) (config : Config) : List Notice :=
  Schema.loadNotices {} config files.schema ++ match task with
    | .validate step _ => sessionNotices config files step
    | _ => []

def run (task : Task) (files : Files) : Result :=
  match attempt task files with
  | .ok result => result
  | .error result => result

end Formwork.Command
