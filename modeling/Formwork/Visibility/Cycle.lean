import Formwork.Condition.Evaluation
import Formwork.Schema.Basic
import Formwork.Visibility.Basic

/-! # Cycles of visibility

A change of values can show and hide fields, and a field that is hidden loses its value,
which can show and hide further fields. A cycle repeats this until nothing is left to do;
it takes at most one pass more than there are conditional fields.
-/

namespace Formwork

/-- The conditions of the fields that have one, by the names of the fields. -/
abbrev Conditions := Entries Condition

namespace Conditions

/-- The conditions of fields. Of a name that is declared again the last declaration
    counts. -/
def ofFields (fields : List Field) : Conditions :=
  fields.foldl (fun found field => match field.condition with
    | some condition => found.put field.name condition
    | none => found.drop field.name) []

/-- The fields that some condition reads. -/
def watched (conditions : Conditions) : List String :=
  Names.distinct (conditions.flatMap fun entry => entry.2.references)

/-- The conditional fields that read one of the changed fields. -/
def affectedBy (conditions : Conditions) (changed : List String) : List String :=
  Entries.names (conditions.filter fun entry => entry.2.references.any changed.contains)

/-- The map with the entries of some conditional fields evaluated again. -/
def reevaluate (conditions : Conditions) (pending : List String) (values : Entries Value)
    (map : Visibility) : Visibility :=
  conditions.foldl (fun map entry =>
    if pending.contains entry.1 then map.put entry.1 (entry.2.holds values) else map) map

/-- What evaluating the conditions of some fields gives notice of. -/
def noticesOf (conditions : Conditions) (pending : List String) : List Notice :=
  conditions.flatMap fun entry =>
    if pending.contains entry.1 then entry.2.notices else []

end Conditions

namespace Visibility

def all (fields : List Field) : Visibility :=
  Entries.ofList (fields.map fun field => (field.name, true))

end Visibility

/-- A cycle on its way. -/
structure Cycle where
  map : Visibility
  values : Entries Value
  /-- The conditional fields that have to be evaluated. -/
  pending : List String
  /-- The fields whose values were removed. -/
  cleared : List String := []
  notices : List Notice := []

namespace Cycle

/-- One pass: evaluate what is pending, and remove the values of hidden fields. What reads
    a removed value is pending next. -/
def pass (conditions : Conditions) (cycle : Cycle) : Cycle :=
  let map := conditions.reevaluate cycle.pending cycle.values cycle.map
  let removed := map.hidden.filter cycle.values.has
  { map
    values := cycle.values.dropAll removed
    pending := conditions.affectedBy removed
    cleared := cycle.cleared ++ removed
    notices := cycle.notices ++ conditions.noticesOf cycle.pending
      ++ if removed.isEmpty then [] else [.clearedValues (Names.sorted removed)] }

/-- Passes until nothing is pending, but no more than a number of them. -/
def passes (conditions : Conditions) : Nat → Cycle → Cycle
  | 0, cycle => cycle
  | limit + 1, cycle =>
      if cycle.pending.isEmpty then cycle else passes conditions limit (cycle.pass conditions)

def settle (conditions : Conditions) (cycle : Cycle) : Cycle :=
  cycle.passes conditions (conditions.length + 1)

end Cycle

end Formwork
