import Formwork.FieldType
import Formwork.Notice
import Formwork.Pattern.Parser
import Formwork.Schema.Basic
import Formwork.Validator
import Formwork.Visibility.Basic

/-! # Rulesets

A schema compiled for validation. A snapshot of values is checked in three phases: each
field by itself, validators over several fields, asynchronous validators. A phase runs
only when the ones before it found nothing, and hidden fields are left out.
-/

namespace Formwork

/-- The checks of one field by itself. -/
structure CompiledField where
  field : Field
  type : FieldType
  pattern : Option Pattern.Node
  requiredMessage : String

/-- A validator over several fields, with the field that declares it. -/
structure CrossFieldCheck where
  owner : String
  fields : List String
  validator : String
  message : String
  function : CrossFieldValidator

/-- An asynchronous validator of a field, with its companions. -/
structure AsyncCheck where
  field : String
  validator : String
  companions : List String
  message : String
  function : AsyncValidator

/-- The checks of a form. -/
structure Ruleset where
  fields : List CompiledField
  crossField : List CrossFieldCheck := []
  async : List AsyncCheck := []
  asyncErrorMessage : String := "Unable to validate this field right now"
  deriving Inhabited

/-- Messages by field, in the order in which fields were first found wanting. -/
abbrev Errors := Entries (List String)

/-- A call of a validator, with what it came back with. -/
structure ValidatorCall where
  validator : String
  arguments : List Value
  reply : Reply
  deriving Repr

/-- What a phase of validation finds, whom it calls, and what it gives notice of. -/
structure Findings where
  errors : Errors := []
  calls : List ValidatorCall := []
  notices : List Notice := []

/-- The result of a validation. -/
structure Outcome where
  valid : Bool
  errors : Errors
  deriving Repr

namespace Findings

/-- Whether nothing was found wanting. -/
def isClean (findings : Findings) : Bool := findings.errors.isEmpty

def outcome (findings : Findings) : Outcome :=
  { valid := findings.isClean, errors := findings.errors }

/-- The findings of a phase and, if there were none, of the one after it. -/
def andThen (first second : Findings) : Findings :=
  if first.isClean then
    { errors := second.errors
      calls := first.calls ++ second.calls
      notices := first.notices ++ second.notices }
  else first

end Findings

namespace Outcome

def errorFields (outcome : Outcome) : List String := outcome.errors.names

def firstError? (outcome : Outcome) (name : String) : Option String :=
  (outcome.errors.get? name).bind List.head?

end Outcome

def Errors.add (errors : Errors) (name message : String) : Errors :=
  errors.put name (((Entries.get? errors name).getD []) ++ [message])

def Errors.addOnce (errors : Errors) (name message : String) : Errors :=
  let messages := (Entries.get? errors name).getD []
  errors.put name (if messages.contains message then messages else messages ++ [message])

namespace CompiledField

def name (compiled : CompiledField) : String := compiled.field.name

/-- The messages for the current values. An empty value is wrong only where one is
    required. -/
def check (compiled : CompiledField) (values : Entries Value) : List String :=
  let value := values.value compiled.name
  if compiled.type.emptiness.holds value then
    if compiled.field.rules.required then [compiled.requiredMessage] else []
  else compiled.field.checkShape compiled.type.shape compiled.pattern value values

end CompiledField

namespace CrossFieldCheck

/-- The fields that the validator is given and that its message is attached to: the
    named ones, or the owner when none are named. -/
def targets (check : CrossFieldCheck) : List String :=
  if check.fields.isEmpty then [check.owner] else check.fields

/-- Whether the owner and all named fields are shown. -/
def isActive (check : CrossFieldCheck) (visibility : Option Visibility) : Bool :=
  (check.owner :: check.fields).all (isShown visibility)

/-- The values that the validator is given. -/
def restricted (check : CrossFieldCheck) (values : Entries Value) : Entries Value :=
  Entries.ofList (check.targets.map fun name => (name, values.value name))

def call (check : CrossFieldCheck) (values : Entries Value) : ValidatorCall :=
  { validator := check.validator
    arguments := [.object (check.restricted values), .list (check.targets.map .str)]
    reply := check.function (check.restricted values) check.targets }

/-- The findings with those of one check. A validator that fails finds nothing. -/
def run (values : Entries Value) (visibility : Option Visibility) (found : Findings)
    (check : CrossFieldCheck) : Findings :=
  if !check.isActive visibility then found
  else
    let call := check.call values
    let found := { found with calls := found.calls ++ [call] }
    match call.reply with
    | .fails fault =>
        let notice := .validatorFailed .crossField check.validator check.owner fault.kind
        { found with notices := found.notices ++ [notice] }
    | .answers answer =>
        if answer.truthy then found
        else
          let errors := check.targets.foldl (fun errors name =>
            Errors.addOnce errors name check.message) found.errors
          { found with errors }

end CrossFieldCheck

namespace AsyncCheck

/-- Whether the field is shown and has a value. -/
def isActive (check : AsyncCheck) (values : Entries Value) (visibility : Option Visibility) :
    Bool :=
  isShown visibility check.field && !(values.value check.field).isEmpty

/-- The values that the validator is given. -/
def arguments (check : AsyncCheck) (values : Entries Value) : List Value :=
  values.value check.field :: check.companions.map values.value

def call (check : AsyncCheck) (values : Entries Value) : ValidatorCall :=
  { validator := check.validator
    arguments := check.arguments values
    reply := check.function (check.arguments values) }

/-- The findings with those of one check. A validator that fails finds the field wanting. -/
def run (asyncErrorMessage : String) (values : Entries Value) (visibility : Option Visibility)
    (found : Findings) (check : AsyncCheck) : Findings :=
  if !check.isActive values visibility then found
  else
    let call := check.call values
    let found := { found with calls := found.calls ++ [call] }
    match call.reply with
    | .fails fault =>
        let notice := .validatorFailed .async check.validator check.field fault.kind
        { found with
          errors := Errors.add found.errors check.field asyncErrorMessage
          notices := found.notices ++ [notice] }
    | .answers answer =>
        if answer.truthy then found
        else { found with errors := Errors.add found.errors check.field check.message }

end AsyncCheck

namespace Ruleset

def fieldNames (rules : Ruleset) : List String := rules.fields.map (·.name)

/-- The first phase: each field that is shown, by itself. -/
def checkFields (rules : Ruleset) (values : Entries Value) (visibility : Option Visibility) :
    Findings :=
  let wanting := rules.fields.filterMap fun compiled =>
    if isShown visibility compiled.name && !(compiled.check values).isEmpty then
      some (compiled.name, compiled.check values)
    else none
  { errors := Entries.ofList wanting }

/-- The second phase: validators over several fields. -/
def checkCrossField (rules : Ruleset) (values : Entries Value)
    (visibility : Option Visibility) : Findings :=
  rules.crossField.foldl (CrossFieldCheck.run values visibility) {}

/-- The third phase: asynchronous validators. -/
def checkAsync (rules : Ruleset) (values : Entries Value) (visibility : Option Visibility) :
    Findings :=
  rules.async.foldl (AsyncCheck.run rules.asyncErrorMessage values visibility) {}

/-- The phases that need no waiting. -/
def validateLocal (rules : Ruleset) (values : Entries Value)
    (visibility : Option Visibility) : Findings :=
  (rules.checkFields values visibility).andThen (rules.checkCrossField values visibility)

def validate (rules : Ruleset) (values : Entries Value) (visibility : Option Visibility) :
    Findings :=
  (rules.validateLocal values visibility).andThen (rules.checkAsync values visibility)

end Ruleset

end Formwork
