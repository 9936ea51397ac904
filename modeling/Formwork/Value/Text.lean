import Formwork.Number.Decimal
import Formwork.Text.Quoted
import Formwork.Value.Basic

/-! # The text of a value

The text that stands for a value in messages: a string is its own text, inside lists
and objects it is quoted.
-/

namespace Formwork

/-- Floating numbers in messages: positional from 10⁻⁴ up to 10¹⁶, otherwise with an
    exponent of at least two digits. -/
def DecimalStyle.message : DecimalStyle :=
  { leastPlace := -3, greatestPlace := 16, exponentWidth := 2
    nan := "nan", infinity := "inf", negativeInfinity := "-inf" }

namespace Value

/-- What a boolean reads as in messages. -/
def boolText (b : Bool) : String := if b then "True" else "False"

mutual

/-- The form in which a value stands inside other values, strings being quoted. -/
def shown : Value → String
  | .null => "None"
  | .bool b => boolText b
  | .int n => toString n
  | .float x => DecimalStyle.message.write x
  | .str s => quoted s
  | .list items => "[" ++ shownItems items ++ "]"
  | .object entries => "\x7b" ++ shownEntries entries ++ "\x7d"

def shownItems : List Value → String
  | [] => ""
  | [item] => shown item
  | item :: rest => shown item ++ ", " ++ shownItems rest

def shownEntries : List (String × Value) → String
  | [] => ""
  | [(name, value)] => quoted name ++ ": " ++ shown value
  | (name, value) :: rest => quoted name ++ ": " ++ shown value ++ ", " ++ shownEntries rest

end

def text : Value → String
  | .str s => s
  | other => other.shown

/-- The text of a value that is looked for inside a field's text: booleans and null are
    written as in a document. -/
def searchText : Value → String
  | .bool true => "true"
  | .bool false => "false"
  | .null => "null"
  | other => other.text

end Value

end Formwork
