import Formwork.Condition.Basic
import Formwork.Notice
import Formwork.Value.Equality

/-! # Evaluating conditions

Whether a condition holds of the values of a form. Evaluation always answers: a leaf
without a field holds, and an unknown comparison is equality. What deserves a notice
depends on the condition alone and is listed separately.
-/

namespace Formwork

namespace Comparison

/-- Whether a field's current value contains a target, as an item or as text; none when
    it can contain nothing. -/
def containment? (current target : Value) : Option Bool :=
  match current with
  | .list items => some (items.any (·.strictlySame target))
  | .str text => some (Text.isInfix target.searchText.toList text.toList)
  | _ => none

/-- Whether a comparison holds between a field's current value and a target. -/
def holds (comparison : Comparison) (current target : Value) : Bool :=
  match comparison with
  | .equal => current.strictlySame target
  | .unequal => !current.strictlySame target
  | .greater => target.numberBelow current
  | .less => current.numberBelow target
  | .contains => (containment? current target).getD false
  | .lacks => ((containment? current target).map (!·)).getD false
  | .empty => current.isEmpty
  | .filled => !current.isEmpty

end Comparison

namespace Condition

def leafHolds (values : Entries Value) (c : Condition) : Bool :=
  match c.leafField with
  | [] => true
  | name :: _ =>
      let current := values.value name
      match c.equals with
      | some expected => current.strictlySame expected
      | none => (Comparison.named c.operator).holds current c.value

mutual

/-- Whether a condition holds. Children are combined by `or` when it says so, otherwise
    all must hold. -/
def holds (values : Entries Value) : Condition → Bool
  | ⟨_, _, _, _, some (child :: rest), combinator⟩ =>
      if combinator = some "or" then holds values child || anyHolds values rest
      else holds values child && allHold values rest
  | ⟨field, operator, value, equals, conditions, combinator⟩ =>
      leafHolds values ⟨field, operator, value, equals, conditions, combinator⟩

def anyHolds (values : Entries Value) : List Condition → Bool
  | [] => false
  | c :: rest => holds values c || anyHolds values rest

def allHold (values : Entries Value) : List Condition → Bool
  | [] => true
  | c :: rest => holds values c && allHold values rest

end

def leafNotices (c : Condition) : List Notice :=
  match c.leafField with
  | [] => [.fieldlessCondition]
  | _ :: _ =>
      match c.equals, c.operator with
      | none, some name =>
          if (Comparison.ofName? name).isNone then [.unknownComparison name] else []
      | _, _ => []

mutual

/-- What the evaluation of a condition gives notice of. All children are looked at,
    whatever the first ones answer. -/
def notices : Condition → List Notice
  | ⟨_, _, _, _, some (child :: rest), _⟩ => notices child ++ noticesOfAll rest
  | ⟨field, operator, value, equals, conditions, combinator⟩ =>
      leafNotices ⟨field, operator, value, equals, conditions, combinator⟩

/-- What the evaluation of several conditions gives notice of. -/
def noticesOfAll : List Condition → List Notice
  | [] => []
  | c :: rest => notices c ++ noticesOfAll rest

end

end Condition

end Formwork
