import Formwork.Config
import Formwork.Ruleset.Basic

/-! # Compiling schemas

A schema becomes a ruleset. Of fields with one name the last declaration counts, in the
place of the first. A reference to a validator that is not registered is dropped, and a
pattern that is malformed is ignored; both are given notice of.
-/

namespace Formwork

/-- What a schema is compiled with. -/
structure CompileOptions where
  crossField : Entries CrossFieldValidator := []
  async : Entries AsyncValidator := []
  fieldTypes : Entries FieldType := []
  /-- The characters that patterns may name. -/
  characters : String → Option Char := fun _ => none
  config : Config := {}
  deriving Inhabited

namespace Schema

/-- The fields that count: one of each name, the last declaration in the place of the
    first. -/
def effectiveFields (schema : Schema) : List Field :=
  (Entries.ofList (schema.fields.map fun field => (field.name, field))).map (·.2)

end Schema

namespace Field

/-- The pattern of a field, compiled; a malformed one counts as none. -/
def compilePattern (characters : String → Option Char) (field : Field) :
    Except Pattern.PatternError (Option Pattern.Node) :=
  match nonEmpty? field.rules.pattern with
  | none => .ok none
  | some source => match Pattern.compile characters source with
      | .ok node => .ok (some node)
      | .error .malformed => .ok none
      | .error e => .error e

/-- What compiling the pattern of a field gives notice of. -/
def patternNotices (characters : String → Option Char) (field : Field) : List Notice :=
  match (nonEmpty? field.rules.pattern).map (Pattern.compile characters) with
  | some (.error .malformed) => [.invalidPattern]
  | _ => []

def compile (options : CompileOptions) (field : Field) :
    Except Pattern.PatternError CompiledField :=
  let type := FieldType.resolve options.fieldTypes field.type
  (field.compilePattern options.characters).map fun pattern =>
    { field, type, pattern
      requiredMessage := ((nonEmpty? field.rules.errorMessage).or
        (nonEmpty? type.requiredMessage)).getD options.config.requiredMessage }

def validatorMessage (field : Field) : String :=
  field.message ("Validation failed for " ++ field.name)

/-- The check over several fields that a field declares, if its validator is registered. -/
def crossFieldCheck? (options : CompileOptions) (field : Field) : Option CrossFieldCheck := do
  let reference ← field.rules.crossField
  let function ← options.crossField.get? reference.validator
  return { owner := field.name, fields := reference.fields, validator := reference.validator
           message := field.validatorMessage, function }

/-- The asynchronous check that a field declares, if its validator is registered. -/
def asyncCheck? (options : CompileOptions) (field : Field) : Option AsyncCheck := do
  let reference ← field.rules.async
  let function ← options.async.get? reference.validator
  return { field := field.name, validator := reference.validator
           companions := reference.companions, message := field.validatorMessage, function }

def validatorNotices (options : CompileOptions) (field : Field) : List Notice :=
  let crossField := match field.rules.crossField with
    | some reference =>
        if options.crossField.has reference.validator then []
        else [Notice.unknownValidator .crossField reference.validator field.name]
    | none => []
  let async := match field.rules.async with
    | some reference =>
        if options.async.has reference.validator then []
        else [Notice.unknownValidator .async reference.validator field.name]
    | none => []
  crossField ++ async

end Field

namespace Ruleset

/-- The checks of several fields by themselves. -/
def compileFields (options : CompileOptions) :
    List Field → Except Pattern.PatternError (List CompiledField)
  | [] => .ok []
  | field :: rest => do return (← field.compile options) :: (← compileFields options rest)

/-- The ruleset of a schema. Only a pattern that cannot be dealt with prevents it. -/
def compile (options : CompileOptions) (schema : Schema) :
    Except Pattern.PatternError Ruleset :=
  let fields := schema.effectiveFields
  (compileFields options fields).map fun compiled =>
    { fields := compiled
      crossField := fields.filterMap (·.crossFieldCheck? options)
      async := fields.filterMap (·.asyncCheck? options)
      asyncErrorMessage := options.config.asyncErrorMessage }

/-- Validators that are given fields which the schema does not declare. -/
def unknownTargets (names : List String) (rules : Ruleset) : List Notice :=
  (rules.crossField.flatMap fun check =>
    (check.fields.filter fun name => !names.contains name).map
      (.unknownTarget .crossField check.validator check.owner))
  ++ (rules.async.flatMap fun check =>
    (check.companions.filter fun name => !names.contains name).map
      (.unknownTarget .async check.validator check.field))

/-- What compiling several fields gives notice of, up to a pattern that cannot be dealt
    with. -/
def fieldNotices (options : CompileOptions) : List Field → List Notice
  | [] => []
  | field :: rest =>
      if field.compilePattern options.characters matches .error _ then []
      else field.patternNotices options.characters ++ field.validatorNotices options ++
        fieldNotices options rest

def compileNotices (options : CompileOptions) (schema : Schema) : List Notice :=
  let fields := schema.effectiveFields
  fieldNotices options fields ++ match compile options schema with
    | .ok rules =>
        unknownTargets (fields.map (·.name)) rules ++
          [.compiled schema.title rules.fields.length rules.crossField.length rules.async.length]
    | .error _ => []

end Ruleset

end Formwork
