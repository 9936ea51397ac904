import Formwork.File
import Formwork.Notice
import Formwork.Reading

/-! # Configuration

Settings for the loading and checking of forms.
-/

namespace Formwork

/-- What to do with repeated field names. -/
inductive DuplicatePolicy where
  | reject
  | lastWins
  deriving Repr, DecidableEq

namespace DuplicatePolicy

def name : DuplicatePolicy → String
  | .reject => "reject"
  | .lastWins => "last_wins"

def ofValue : Value → Reading DuplicatePolicy
  | .str "reject" => .read .reject
  | .str "last_wins" => .read .lastWins
  | _ => .refuse .notInEnumeration

end DuplicatePolicy

/-- The settings. -/
structure Config where
  duplicates : DuplicatePolicy := .reject
  requiredMessage : String := "This field is required"
  asyncErrorMessage : String := "Unable to validate this field right now"
  logLevel : String := "INFO"
  logFile : Option String := none
  /-- The environment variable that holds the signing key. -/
  secretVariable : String := "DAZZLE_SECRET_KEY"
  deriving Repr, Inhabited

namespace Config

def developmentKey : String := "dazzle-dev-secret-key"

/-- The key that step states are signed with. -/
def signingKey (config : Config) (environment : Entries String) : String :=
  (environment.get? config.secretVariable).getD developmentKey

/-- The path of a file, in its normal spelling. -/
def pathOfValue : Value → Reading String
  | .str s => .read (Path.normal s)
  | _ => .refuse .notPath

def ofEntries (document : Entries Value) : Reading Config :=
  let defaults : Config := {}
  Config.mk
    <$> (Key.plain "duplicate_fields").withDefault {} defaults.duplicates DuplicatePolicy.ofValue
          document
    <*> (Key.plain "required_message").withDefault {} defaults.requiredMessage Reader.string
          document
    <*> (Key.plain "async_error_message").withDefault {} defaults.asyncErrorMessage Reader.string
          document
    <*> (Key.plain "log_level").withDefault {} defaults.logLevel Reader.string document
    <*> (Key.plain "log_file").optional {} pathOfValue document
    <*> (Key.plain "state_secret_env").withDefault {} defaults.secretVariable Reader.string document

def ofValue : Value → Reading Config := Reader.record ofEntries

end Config

end Formwork
