import Formwork.Json.Parser
import Formwork.Json.Printer
import Formwork.Notice

/-! # Remote validators

An asynchronous validator that asks an address. It sends the field's value and those of its
companions as a document, and is answered by a document that says whether they are
acceptable. Anything but an answer is a failure.
-/

namespace Formwork

/-- A validator at an address. -/
structure RemoteValidator where
  url : String
  /-- Headers that its requests carry beside those that belong to every request. -/
  headers : Entries String := []
  deriving Repr, DecidableEq

namespace Remote

/-- Why a remote validator gives no answer. -/
inductive Fault where
  /-- The values cannot be written: a number among them is not finite. -/
  | unwritable
  /-- The address cannot be reached. -/
  | unreachable
  /-- The status is not one of success. -/
  | refused (status : Int)
  /-- The answer is no document. -/
  | unreadable
  /-- A whole number in the answer has too many digits. -/
  | longNumber
  /-- Lists and objects in the answer are nested too deep. -/
  | tooDeep
  deriving Repr, DecidableEq

/-- A request as it is sent. -/
structure Request where
  method : String := "POST"
  url : String
  headers : Entries String
  body : String
  deriving Repr, DecidableEq

/-- What comes back. -/
inductive Response where
  | answer (status : Int) (body : String)
  | failure
  deriving Repr, DecidableEq

mutual

/-- Whether all numbers in a value are finite. -/
def isWritable : Value → Bool
  | .float x => x.isFinite
  | .list items => areWritable items
  | .object entries => entriesWritable entries
  | _ => true

def areWritable : List Value → Bool
  | [] => true
  | item :: rest => isWritable item && areWritable rest

/-- Whether all numbers in an object are finite. -/
def entriesWritable : List (String × Value) → Bool
  | [] => true
  | (_, value) :: rest => isWritable value && entriesWritable rest

end

/-- Documents that are sent: without white space, everything but controls as it is. -/
def bodyStyle : Json.Style :=
  { comma := ",", colon := ":", asciiOnly := false, decimal := DecimalStyle.message }

/-- Header names are compared without regard to case. -/
def sameHeader (a b : String) : Bool :=
  Text.lower a.toList == Text.lower b.toList

namespace Request

/-- The value of a header; several values are joined. -/
def header (request : Request) (name : String) : Option String :=
  let values := (request.headers.filter fun entry => sameHeader entry.1 name).map (·.2)
  if values.isEmpty then none else some (", ".intercalate values)

/-- The kind of document that is sent. -/
def contentType (request : Request) : String :=
  (request.header "Content-Type").getD "application/json"

end Request

/-- Whether an answer accepts the values: an object whose entry `valid` counts as true. -/
def accepts : Value → Bool
  | .object entries => (Entries.value entries "valid").truthy
  | _ => false

/-- The text of a body without the mark of byte order that may stand before it. -/
def withoutMark : List Char → List Char
  | '\ufeff' :: rest => rest
  | text => text

/-- What a response says about the values. -/
def verdict : Response → Except Fault Bool
  | .failure => .error .unreachable
  | .answer status body =>
      if status < 200 || 300 ≤ status then .error (.refused status)
      else match Json.parse {} (withoutMark body.toList) with
        | .ok document => .ok (accepts document)
        | .error .malformed => .error .unreadable
        | .error .longNumber => .error .longNumber
        | .error .tooDeep => .error .tooDeep

end Remote

namespace RemoteValidator

/-- The request about a value and its companions, if they can be written. -/
def request (validator : RemoteValidator) (value : Value) (companions : List Value) :
    Except Remote.Fault Remote.Request :=
  let document := Value.object [("value", value), ("params", .list companions)]
  if Remote.isWritable document then
    .ok { url := validator.url, headers := validator.headers
          body := Json.write Remote.bodyStyle document }
  else .error .unwritable

def notices (validator : RemoteValidator) (response : Remote.Response) : List Notice :=
  match Remote.verdict response with
  | .ok valid => [.remoteAnswered validator.url valid]
  | .error _ => []

end RemoteValidator

end Formwork
