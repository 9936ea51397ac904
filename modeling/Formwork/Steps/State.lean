import Formwork.Json.Parser
import Formwork.Json.Printer
import Formwork.Reading

/-! # The state of a sequence of steps

What a host keeps of a form in several steps that is still being filled in, and its
document.
-/

namespace Formwork

/-- Where a sequence of steps stands. -/
structure StepState where
  index : Int := 0
  data : Entries Value := []
  completed : Bool := false
  startedAt : Binary64
  deriving Repr

/-- How a state's document is written: without white space, whole floating numbers with a
    point, powers of ten from 10⁻⁶ down and 10¹⁶ up; what is no finite number as null. -/
def Json.Style.stepState : Json.Style :=
  { comma := ",", colon := ":", asciiOnly := false
    decimal :=
      { leastPlace := -4, greatestPlace := 16, exponentWidth := 1
        nan := "null", infinity := "null", negativeInfinity := "null" } }

namespace StepState

/-- A state from the entries of a document. A sequence without a beginning begins now. -/
def ofEntries (now : Binary64) (document : Entries Value) : Reading StepState :=
  StepState.mk
    <$> (Key.plain "index").withDefault {} 0 Reader.int document
    <*> (Key.plain "data").withDefault {} [] (Reader.object Reader.any) document
    <*> (Key.plain "completed").withDefault {} false Reader.bool document
    <*> (Key.plain "started_at").withDefault {} now Reader.float document

def ofValue (now : Binary64) : Value → Reading StepState := Reader.record (ofEntries now)

def toValue (state : StepState) : Value := .object
  [("index", .int state.index), ("data", .object state.data),
   ("completed", .bool state.completed), ("started_at", .float state.startedAt)]

def toBytes (state : StepState) : List UInt8 :=
  (Json.write .stepState state.toValue).toUTF8.toList

/-- How deep lists and objects may lie in one another in a document of a state. -/
def nestingLimit : Nat := 200

def ofBytes? (now : Binary64) (bytes : List UInt8) : Option StepState := do
  let text ← String.fromUTF8? (ByteArray.mk bytes.toArray)
  let document ← Json.parse? { halves := false } text.toList
  if document.depth ≤ nestingLimit then (ofValue now document).toOption else none

end StepState

end Formwork
