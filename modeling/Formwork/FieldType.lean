import Formwork.Calendar.Date
import Formwork.Pattern.Matcher
import Formwork.Schema.Basic
import Formwork.Value.Text

/-! # Field types

What the type tag of a field asks of its value: when the value counts as empty, which
shape it must have, and which bounds apply. An unknown tag asks for text and nothing
more.
-/

namespace Formwork

/-- The shapes of values, each with a check of its own. -/
inductive Shape where
  /-- Any text. -/
  | plainText
  /-- Text within the bounds of its length and with the pattern. -/
  | text
  | number
  | boolean
  | date
  /-- One of the options. -/
  | choice
  /-- A list of options. -/
  | choices
  | list
  /-- What a function of the host checks. It is given all values there are, not only that of the
      field. -/
  | own (check : Field → Option Pattern.Node → Value → Entries Value → List String)

/-- Which values count as empty. -/
inductive Emptiness where
  /-- Null, the empty text and the empty list. -/
  | common
  /-- Null alone. -/
  | onlyNull
  /-- What a function of the host says. -/
  | own (isEmpty : Value → Bool)

namespace Emptiness

def holds : Emptiness → Value → Bool
  | .common, value => value.isEmpty
  | .onlyNull, .null => true
  | .onlyNull, _ => false
  | .own isEmpty, value => isEmpty value

end Emptiness

/-- The rule of a type tag. -/
structure FieldType where
  name : String
  shape : Shape
  emptiness : Emptiness := .common
  requiredMessage : Option String := none

def nonEmpty? (text : Option String) : Option String := text.filter (· != "")

/-- A bound in messages: without a point when it is whole. -/
def boundText (bound : Binary64) : String :=
  match bound.toInt? with
  | some n => toString n
  | none => DecimalStyle.message.write bound

namespace Field

/-- The message of a failed check: the field's own one, if it has one. -/
def message (field : Field) (default : String) : String :=
  (nonEmpty? field.rules.errorMessage).getD default

/-- The messages of checks that failed, each with the text it has when the field gives
    none of its own. -/
def failures (field : Field) (checks : List (Bool × String)) : List String :=
  (checks.filter (·.1)).map fun check => field.message check.2

/-- Length and pattern of a text. A bound of zero asks for nothing. -/
def checkText (field : Field) (pattern : Option Pattern.Node) (text : String) : List String :=
  let least := field.rules.minLength.getD 0
  let most := field.rules.maxLength.getD 0
  field.failures
    [(least != 0 && decide ((text.length : Int) < least),
        "Must be at least " ++ toString least ++ " characters"),
     (most != 0 && decide (most < (text.length : Int)),
        "Must be at most " ++ toString most ++ " characters"),
     (pattern.any fun node => !node.search text, "Invalid format")]

def checkNumber (field : Field) (value : Value) : List String :=
  let below (bound : Binary64) : Bool := value.numberBelow (.float bound)
  let above (bound : Binary64) : Bool := Value.numberBelow (.float bound) value
  field.failures
    [(field.rules.min.any below, "Must be at least " ++ (field.rules.min.elim "" boundText)),
     (field.rules.max.any above, "Must be at most " ++ (field.rules.max.elim "" boundText))]

/-- Whether something is none of the options that apply. -/
def isForeign (options : Option (List String)) (text : String) : Bool :=
  options.any fun known => !known.contains text

/-- The strings of a list that holds nothing else. -/
def stringsOf? : Value → Option (List String)
  | .list items => items.mapM fun item => match item with
      | .str s => some s
      | _ => none
  | _ => none

/-- The messages of a value that is not empty. -/
def checkShape (field : Field) (shape : Shape) (pattern : Option Pattern.Node)
    (value : Value) (values : Entries Value) : List String :=
  match shape, value with
  | .plainText, .str _ => []
  | .plainText, _ => [field.message "Expected text"]
  | .text, .str text => field.checkText pattern text
  | .text, _ => [field.message "Expected text"]
  | .number, value =>
      if value.isNumber then field.checkNumber value else [field.message "Expected a number"]
  | .boolean, .bool _ => []
  | .boolean, _ => [field.message "Expected true or false"]
  | .date, .str text =>
      field.failures [((Calendar.dayOfText? text).isNone, "Invalid date")]
  | .date, _ => [field.message "Expected a date"]
  | .choice, .str text =>
      field.failures [(isForeign (field.optionsFor values) text, "Invalid option")]
  | .choice, _ => [field.message "Expected text"]
  | .choices, value => match stringsOf? value with
      | some texts =>
          field.failures [(texts.any (isForeign (field.optionsFor values)), "Invalid option")]
      | none => [field.message "Expected a list of options"]
  | .list, .list _ => []
  | .list, _ => [field.message "Expected a list"]
  | .own check, value => check field pattern value values

end Field

namespace FieldType

/-- The rule of a tag that is not known. -/
def fallback : FieldType := { name := "string", shape := .plainText }

def table : Entries FieldType :=
  [("string", { name := "string", shape := .text }),
   ("textarea", { name := "textarea", shape := .text }),
   ("number", { name := "number", shape := .number }),
   ("boolean", { name := "boolean", shape := .boolean, emptiness := .onlyNull }),
   ("date", { name := "date", shape := .date }),
   ("radio", { name := "radio", shape := .choice }),
   ("file", { name := "file", shape := .plainText }),
   ("signature", { name := "signature", shape := .plainText
                   requiredMessage := some "Signature is required" }),
   ("multiselect", { name := "multiselect", shape := .choices }),
   ("dropzone", { name := "dropzone", shape := .list
                  requiredMessage := some "At least one file is required" })]

/-- The rule of a tag: an override, else the known one, else the loosest. -/
def resolve (overrides : Entries FieldType) (tag : String) : FieldType :=
  ((overrides.get? tag).or (table.get? tag)).getD fallback

end FieldType

end Formwork
