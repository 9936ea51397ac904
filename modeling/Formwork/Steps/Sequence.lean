import Formwork.Notice
import Formwork.Schema.Basic
import Formwork.Steps.State

/-! # Sequences of steps

A form in sections is filled in one step at a time. The data of the steps is merged on the
way, and the last step completes the form. A form without sections has a single step.
-/

namespace Formwork

namespace Schema

/-- The forms of the steps: one for each section, or the form itself. -/
def steps (schema : Schema) : List Schema :=
  if schema.isMultiStep then schema.sections.map schema.ofSection else [schema]

def stepTitles (schema : Schema) : List String :=
  if schema.isMultiStep then schema.sections.map (·.title) else [schema.title]

end Schema

/-- A form that is being filled in step by step. -/
structure StepSequence where
  schema : Schema
  index : Nat := 0
  /-- The data merged so far. -/
  data : Entries Value := []
  completed : Bool := false
  startedAt : Binary64

namespace StepSequence

def count (sequence : StepSequence) : Nat := sequence.schema.steps.length

def isTerminal (sequence : StepSequence) : Bool := sequence.index + 1 == sequence.count

def current (sequence : StepSequence) : Schema :=
  (sequence.schema.steps[sequence.index]?).getD sequence.schema

/-- The section of the current step; a form without sections has none. -/
def currentSection? (sequence : StepSequence) : Option Section :=
  sequence.schema.sections[sequence.index]?

/-- How many of a hundred parts of the steps are reached, the current one included. -/
def progress (sequence : StepSequence) : Binary64 :=
  if sequence.schema.isMultiStep then
    (Binary64.ofRatio false (sequence.index + 1) sequence.count).mul (Binary64.ofInt 100)
  else Binary64.ofInt 100

/-- The merged data with that of the current step. What the step declares and the new data
    does not have is dropped. -/
def merge (sequence : StepSequence) (stepData : Entries Value) : Entries Value :=
  let missing := sequence.current.fieldNames.filter fun name => !stepData.has name
  (sequence.data.dropAll missing).putAll stepData

/-- Hand in the data of the current step and go on: to the next step, or from the last one
    to completion. A completed form takes no more data. -/
def advance? (sequence : StepSequence) (stepData : Entries Value) : Option StepSequence :=
  let data := sequence.merge stepData
  if sequence.completed then none
  else if sequence.isTerminal then some { sequence with data, completed := true }
  else some { sequence with data, index := sequence.index + 1 }

/-- What arriving at a step, or at completion, gives notice of. -/
def advanceNotice (sequence : StepSequence) : Notice :=
  if sequence.completed then .formCompleted sequence.schema.title sequence.data.length
  else .advanced (sequence.index + 1) sequence.count

/-- Go back one step, keeping the data; the first step stays where it is. A completed form
    cannot go back. -/
def retreat? (sequence : StepSequence) : Option StepSequence :=
  if sequence.completed then none else some { sequence with index := sequence.index - 1 }

/-- What going back from a step gives notice of. -/
def retreatNotices (sequence : StepSequence) : List Notice :=
  if sequence.completed || sequence.index == 0 then []
  else [.returned sequence.index sequence.count]

def snapshot (sequence : StepSequence) : StepState :=
  { index := sequence.index, data := sequence.data, completed := sequence.completed
    startedAt := sequence.startedAt }

/-- The sequence of a state that was kept. An index beyond the steps is moved to the
    nearest one. -/
def restore (schema : Schema) (state : StepState) : StepSequence :=
  { schema
    index := (min state.index (schema.steps.length - 1 : Int)).toNat
    data := state.data, completed := state.completed, startedAt := state.startedAt }

end StepSequence

end Formwork
