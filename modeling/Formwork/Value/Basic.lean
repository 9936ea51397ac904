import Formwork.Entries
import Formwork.Number.Binary64

/-! # Values

What a field can hold: the values of a JSON document, with whole and floating
numbers kept apart.
-/

namespace Formwork

/-- A value of a field. -/
inductive Value where
  | null
  | bool (value : Bool)
  | int (value : Int)
  | float (value : Binary64)
  | str (value : String)
  | list (items : List Value)
  | object (entries : List (String × Value))
  deriving Repr, Inhabited

/-- The kinds of value. -/
inductive ValueKind where
  | null | bool | int | float | str | list | object
  deriving Repr, DecidableEq

namespace Value

def kind : Value → ValueKind
  | .null => .null
  | .bool _ => .bool
  | .int _ => .int
  | .float _ => .float
  | .str _ => .str
  | .list _ => .list
  | .object _ => .object

/-- Whether a value counts as true: zero, null and what is empty do not. -/
def truthy : Value → Bool
  | .null => false
  | .bool b => b
  | .int n => n != 0
  | .float (.finite _ units) => units != 0
  | .float _ => true
  | .str s => s != ""
  | .list items => !items.isEmpty
  | .object entries => !entries.isEmpty

/-- Null, the empty text and the empty list count as empty. -/
def isEmpty : Value → Bool
  | .null => true
  | .str s => s == ""
  | .list items => items.isEmpty
  | _ => false

/-- A number, booleans left out. -/
def isNumber : Value → Bool
  | .int _ | .float _ => true
  | _ => false

/-- The place of a number on the line of units; booleans stand at zero and one. -/
def position? : Value → Option Position
  | .bool b => some (Binary64.positionOfInt (if b then 1 else 0))
  | .int n => some (Binary64.positionOfInt n)
  | .float x => x.position?
  | _ => none

/-- Strictly less, of two numbers that are not booleans. -/
def numberBelow (left right : Value) : Bool :=
  left.isNumber && right.isNumber &&
    match left.position?, right.position? with
    | some a, some b => a.before b
    | _, _ => false

mutual

/-- How deep lists and objects lie in one another. -/
def depth : Value → Nat
  | .list items => depthOfItems items + 1
  | .object entries => depthOfEntries entries + 1
  | _ => 0

def depthOfItems : List Value → Nat
  | [] => 0
  | item :: rest => max (depth item) (depthOfItems rest)

def depthOfEntries : List (String × Value) → Nat
  | [] => 0
  | (_, value) :: rest => max (depth value) (depthOfEntries rest)

end

end Value

/-- The value of a field; an absent one reads as null. -/
def Entries.value (values : Entries Value) (name : String) : Value :=
  (values.get? name).getD .null

end Formwork
