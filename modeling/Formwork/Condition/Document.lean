import Formwork.Condition.Evaluation
import Formwork.Schema.Reader

/-! # Conditions in documents

A condition can also be evaluated as it stands in a document. Null, and what is no condition,
counts as satisfied. A condition can be written as a document, too.
-/

namespace Formwork.Condition

def holdsIn (values : Entries Value) (document : Value) : Bool :=
  match document with
  | .null => true
  | _ => match ofValue document with
    | .read c => c.holds values
    | .refused _ => true

/-- What the evaluation of a document gives notice of. -/
def noticesIn (document : Value) : List Notice :=
  match document with
  | .null => []
  | _ => match ofValue document with
    | .read c => c.notices
    | .refused _ => [.malformedCondition]

/-- The entry of the older form of equality. Where that was not given, a `full` document has
    null for it. -/
def equalsEntry (full : Bool) : Option Value → Entries Value
  | some expected => [("equals", expected)]
  | none => if full then [("equals", .null)] else []

mutual

/-- A condition as a document, in which null stands for what is absent. -/
def toDocument (full : Bool) : Condition → Value
  | ⟨field, operator, value, equals, conditions, combinator⟩ =>
      .object ([("field", field.elim .null .str), ("operator", operator.elim .null .str),
          ("value", value)] ++ equalsEntry full equals ++
        [("conditions", childrenToDocument full conditions),
          (combinatorKey.name, combinator.elim .null .str)])

def childrenToDocument (full : Bool) : Option (List Condition) → Value
  | none => .null
  | some children => .list (itemsToDocuments full children)

def itemsToDocuments (full : Bool) : List Condition → List Value
  | [] => []
  | child :: rest => toDocument full child :: itemsToDocuments full rest

end

end Formwork.Condition
