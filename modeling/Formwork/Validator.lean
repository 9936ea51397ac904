import Formwork.Calendar.Date
import Formwork.Condition.Evaluation
import Formwork.Pattern.Parser
import Formwork.Value.Text

/-! # Validators

A validator answers whether values are acceptable, or fails. Those over several fields
are given the values of the fields and their names; asynchronous ones are given the
field's own value and those of its companions. The built-in ones stand at the end.
-/

namespace Formwork

/-- A failure inside a function that a host supplies. -/
structure HostFault where
  /-- The kind of failure. -/
  kind : String
  message : String
  deriving Repr, DecidableEq

/-- What a validator comes back with. -/
inductive Reply where
  | answers (value : Value)
  | fails (fault : HostFault)
  deriving Repr

/-- A validator over several fields: their values, and their names. -/
abbrev CrossFieldValidator := Entries Value → List String → Reply

/-- A validator of one value with those of companion fields after it. -/
abbrev AsyncValidator := List Value → Reply

namespace Reply

def ofBool (b : Bool) : Reply := .answers (.bool b)

end Reply

namespace Builtin

/-- Whether a value is the same as itself: all are but nan. -/
def isSelfSame : Value → Bool
  | .float .nan => false
  | _ => true

/-- Two fields hold the same value. -/
def passwordsMatch : CrossFieldValidator := fun values fields => .ofBool <|
  match fields with
  | [first, second] =>
      if first = second then isSelfSame (values.value first)
      else (values.value first).same (values.value second)
  | _ => false

/-- The first of two dates is not after the second. -/
def dateRangeValid : CrossFieldValidator := fun values fields => .ofBool <|
  match fields with
  | [first, second] =>
      let day name := Calendar.dayOfText? (values.value name).text
      match day first, day second with
      | some start, some stop => decide (start ≤ stop)
      | _, _ => false
  | _ => false

/-- Words that no user name may contain. -/
def reservedWords : List String := ["admin", "root", "superuser", "system"]

/-- The user name contains no reserved word. -/
def isUsernameAvailable : AsyncValidator := fun values => .ofBool <|
  let name := Text.lower (values.headD .null).text.toList
  !reservedWords.any fun word => Text.isInfix word.toList name

def domainEndings : List String := [".com", ".org", ".net", ".edu", ".gov"]

/-- The part of a text between its first sign `@` and the next one. -/
def domainOf (address : List Char) : List Char :=
  ((address.dropWhile (· != '@')).drop 1).takeWhile (· != '@')

/-- The address has a domain with a known ending. -/
def isEmailDomainValid : AsyncValidator := fun values => .ofBool <|
  let email := values.headD .null
  let address := email.text.toList
  email.truthy && address.contains '@'
    && domainEndings.any fun ending => ending.toList.isSuffixOf (domainOf address)

def postalCodes : List (String × String) :=
  [("us", "^\\d\x7b5\x7d(-\\d\x7b4\x7d)?$"),
   ("ca", "^[A-Za-z]\\d[A-Za-z] \\d[A-Za-z]\\d$"),
   ("uk", "^[A-Za-z]\x7b1,2\x7d\\d[A-Za-z\\d]? \\d[A-Za-z]\x7b2\x7d$")]

def hasForm (pattern text : String) : Bool :=
  match Pattern.compile (fun _ => none) pattern with
  | .ok node => node.search text
  | .error _ => false

/-- The postal code has the form of the companion country; anything but white space will
    do for a country whose form is not known. -/
def isPostalCodeValid : AsyncValidator := fun values => .ofBool <|
  let code := values.headD .null
  let country := (values.drop 1).headD .null
  let name := String.ofList (Text.lower (if country.truthy then country.text else "").toList)
  code.truthy && match postalCodes.lookup name with
    | some pattern => hasForm pattern code.text
    | none => !(Text.strip code.text.toList).isEmpty

def crossField : Entries CrossFieldValidator :=
  [("passwordsMatch", passwordsMatch), ("dateRangeValid", dateRangeValid)]

def async : Entries AsyncValidator :=
  [("isUsernameAvailable", isUsernameAvailable), ("isEmailDomainValid", isEmailDomainValid),
   ("isPostalCodeValid", isPostalCodeValid)]

end Builtin

end Formwork
