import Formwork.Value.Text

/-! # Notices

What the library reports beside its answers. A notice is a cause; its importance, the
component that reports it and its wording are functions of the cause.
-/

namespace Formwork

/-- How important a notice is. -/
inductive Severity where
  | debug
  | info
  | warning
  deriving Repr, DecidableEq

namespace Severity

/-- The place of a severity on the common scale of levels. -/
def level : Severity → Nat
  | .debug => 10
  | .info => 20
  | .warning => 30

end Severity

/-- The two kinds of validator. -/
inductive ValidatorKind where
  | crossField
  | async
  deriving Repr, DecidableEq

/-- The component at the root, under which all others are named. -/
def rootSource : String := "dazzle_forms"

/-- Something worth reporting. -/
inductive Notice where
  /-- A document that is no condition was taken as satisfied. -/
  | malformedCondition
  /-- A leaf that names no field was taken as satisfied. -/
  | fieldlessCondition
  /-- A comparison of an unknown name was taken as equality. -/
  | unknownComparison (name : String)
  /-- Repeated field names, of which the last declarations count. -/
  | repeatedNames (names : List String)
  /-- A file in a directory of schemas that cannot be read. -/
  | unreadableSchema
  /-- A configuration file without settings for forms. -/
  | noSettings
  /-- A field names a validator that is not registered. -/
  | unknownValidator (kind : ValidatorKind) (validator field : String)
  /-- A validator is given a field that the schema does not declare. -/
  | unknownTarget (kind : ValidatorKind) (validator owner field : String)
  /-- A field's pattern does not compile. -/
  | invalidPattern
  /-- A schema was compiled. -/
  | compiled (title : String) (fields crossField async : Nat)
  /-- A validator failed instead of answering. -/
  | validatorFailed (kind : ValidatorKind) (validator field fault : String)
  /-- A registered validator was replaced. -/
  | replacedValidator (kind name : String)
  /-- Values were removed from a store. -/
  | clearedValues (names : List String)
  /-- Fields were shown or hidden. -/
  | visibilityChanged (names : List String)
  /-- A session was given another schema. -/
  | schemaChanged (title : String)
  /-- A submission failed validation. -/
  | submitBlocked (names : List String)
  /-- A sequence of steps moved on. -/
  | advanced (step count : Nat)
  /-- A sequence of steps moved back. -/
  | returned (step count : Nat)
  /-- A sequence of steps was completed. -/
  | formCompleted (title : String) (fields : Nat)
  /-- A token's signature does not fit its payload. -/
  | signatureMismatch
  /-- A token is older than allowed. -/
  | stateExpired
  /-- A remote validator answered. -/
  | remoteAnswered (url : String) (valid : Bool)
  deriving Repr

namespace Notice

def shownNames (names : List String) : String := (Value.list (names.map .str)).shown

def severity : Notice → Severity
  | .malformedCondition | .fieldlessCondition | .repeatedNames _ | .unreadableSchema
  | .unknownValidator .. | .unknownTarget .. | .invalidPattern | .validatorFailed ..
  | .signatureMismatch => .warning
  | .formCompleted .. => .info
  | _ => .debug

def component : Notice → String
  | .malformedCondition | .fieldlessCondition | .unknownComparison _ =>
      "runtime.condition_evaluator"
  | .repeatedNames _ | .unreadableSchema => "schema_loader"
  | .noSettings => "config"
  | .unknownValidator .. | .unknownTarget .. | .invalidPattern | .compiled ..
  | .validatorFailed .. => "runtime.ruleset"
  | .replacedValidator .. => "runtime.validator_registry"
  | .clearedValues _ => "runtime.value_store"
  | .visibilityChanged _ => "runtime.visibility"
  | .schemaChanged _ | .submitBlocked _ => "runtime.session"
  | .advanced .. | .returned .. | .formCompleted .. | .signatureMismatch | .stateExpired =>
      "runtime.step_orchestrator"
  | .remoteAnswered .. => "runtime.remote_validators"

/-- The name under which the component writes to the log. -/
def source (notice : Notice) : String := rootSource ++ "." ++ notice.component

/-- The wording. Where it would quote a foreign message it is a template. -/
def message : Notice → String
  | .malformedCondition => "Malformed condition %r treated as satisfied: %s"
  | .fieldlessCondition => "Condition without 'field' treated as satisfied: %r"
  | .unknownComparison name =>
      "Unknown condition operator " ++ quoted name ++ ", comparing for equality"
  | .repeatedNames names =>
      "Duplicate field names " ++ shownNames names ++ "; last declaration wins"
  | .unreadableSchema => "Skipping unreadable schema %s: %s"
  | .noSettings => "No [forms] section in %s, using defaults"
  | .unknownValidator .crossField validator field =>
      "Validator " ++ quoted validator ++ " not found for field " ++ quoted field
        ++ "; check skipped"
  | .unknownValidator .async validator field =>
      "Async validator " ++ quoted validator ++ " not found for field " ++ quoted field
        ++ "; check skipped"
  | .unknownTarget .crossField validator owner field =>
      "Validator " ++ quoted validator ++ " on field " ++ quoted owner
        ++ " names unknown field " ++ quoted field
  | .unknownTarget .async validator owner field =>
      "Async validator " ++ quoted validator ++ " on field " ++ quoted owner
        ++ " names unknown companion field " ++ quoted field
  | .invalidPattern => "Invalid pattern %r on field %r ignored: %s"
  | .compiled title fields crossField async =>
      "Compiled ruleset for " ++ quoted title ++ ": " ++ toString fields ++ " fields, "
        ++ toString crossField ++ " cross-field, " ++ toString async ++ " async"
  | .validatorFailed .crossField validator field _ =>
      "Cross-field validator " ++ quoted validator ++ " raised for field " ++ quoted field
        ++ "; treating as passed"
  | .validatorFailed .async validator field _ =>
      "Async validator " ++ quoted validator ++ " failed for field " ++ quoted field
  | .replacedValidator kind name => "Replacing " ++ kind ++ " validator " ++ name
  | .clearedValues names => "Cleared values for " ++ shownNames names
  | .visibilityChanged names => "Visibility changed for " ++ shownNames names
  | .schemaChanged title => "Schema changed to " ++ quoted title ++ ", recompiling"
  | .submitBlocked names => "Submit blocked by " ++ shownNames names
  | .advanced step count =>
      "Advanced to step " ++ toString step ++ " of " ++ toString count
  | .returned step count =>
      "Returned to step " ++ toString step ++ " of " ++ toString count
  | .formCompleted title fields =>
      "Form " ++ quoted title ++ " completed with " ++ toString fields ++ " fields"
  | .signatureMismatch => "Step state signature mismatch (tamper detected)"
  | .stateExpired => "Step state expired"
  | .remoteAnswered url valid =>
      "Remote validator " ++ url ++ " answered valid=" ++ Value.boolText valid

/-- Data that travels with the message. -/
def context : Notice → Entries Value
  | .unknownValidator _ validator field =>
      [("field", .str field), ("validator", .str validator)]
  | .formCompleted title fields => [("form", .str title), ("fields", .int fields)]
  | _ => []

/-- The kind of failure that gave rise to the notice. -/
def fault? : Notice → Option String
  | .validatorFailed _ _ _ fault => some fault
  | _ => none

end Notice

end Formwork
