import Formwork.Names
import Formwork.Value.Basic

/-! # Conditions

A condition says when a field is shown. It is a comparison of another field's value,
or a combination of further conditions. The two forms share one record, because a
document may fill in both: children, when there are any, win over the comparison.
-/

namespace Formwork

/-- A condition on the values of fields. -/
structure Condition where
  /-- The field whose value is compared. -/
  field : Option String
  /-- The name of the comparison. -/
  operator : Option String
  /-- What the value is compared with. -/
  value : Value
  /-- The older form of equality; present when it was given, even as null. -/
  equals : Option Value
  /-- Child conditions. -/
  conditions : Option (List Condition)
  /-- How children are combined. -/
  combinator : Option String
  deriving Repr, Inhabited

/-- The comparisons that a leaf can make. -/
inductive Comparison where
  | equal
  | unequal
  | greater
  | less
  | contains
  | lacks
  | empty
  | filled
  deriving Repr, DecidableEq

namespace Comparison

/-- The comparison of a name. -/
def ofName? : String → Option Comparison
  | "equals" => some .equal
  | "notEquals" => some .unequal
  | "greaterThan" => some .greater
  | "lessThan" => some .less
  | "contains" => some .contains
  | "notContains" => some .lacks
  | "isEmpty" => some .empty
  | "isNotEmpty" => some .filled
  | _ => none

/-- The comparison that a leaf makes: equality when its name is absent or unknown. -/
def named (name : Option String) : Comparison := (name.bind ofName?).getD .equal

end Comparison

namespace Condition

def isCompound (c : Condition) : Bool :=
  match c.conditions with
  | some (_ :: _) => true
  | _ => false

/-- Whether the older form of equality was given. -/
def usesEquals (c : Condition) : Bool := c.equals.isSome

/-- The field that a leaf reads, if it names one. -/
def leafField (c : Condition) : List String :=
  match c.field with
  | some name => if name = "" then [] else [name]
  | none => []

mutual

/-- The fields that a condition reads, in the order of the document. -/
def references : Condition → List String
  | ⟨_, _, _, _, some (child :: rest), _⟩ => references child ++ referencesOfAll rest
  | ⟨field, operator, value, equals, conditions, combinator⟩ =>
      leafField ⟨field, operator, value, equals, conditions, combinator⟩

/-- The fields that any of several conditions reads. -/
def referencesOfAll : List Condition → List String
  | [] => []
  | c :: rest => references c ++ referencesOfAll rest

end

/-- The fields that a condition reads, each once. -/
def watched (c : Condition) : List String := Names.distinct c.references

end Condition

end Formwork
