import Formwork.Proofs.Steps.Completion

/-! # Driving the steps

A host hands in data and goes back as often as it likes, from a new sequence of steps or from one
that was taken up again. The function that takes the data of the completed form is the host's own:
it may fail, and it may itself hand in data or go back before it returns. All the same the index
stays within the steps and counts the moves, the function is called at most once, by the call that
completes the form, and after that nothing moves any more.
-/

namespace Formwork

namespace StepSequence

variable {schema : Schema} {sequence : StepSequence}

/-- A sequence before anything was handed in: a new one, or one that was taken up again from any
    state at all. -/
inductive Starts (schema : Schema) : StepSequence → Prop where
  | fresh (startedAt : Binary64) : Starts schema { schema, startedAt }
  | restored (state : StepState) : Starts schema (restore schema state)

theorem Starts.schema_eq (starts : sequence.Starts schema) : sequence.schema = schema := by
  cases starts <;> rfl

theorem Starts.within (starts : sequence.Starts schema) : sequence.index < sequence.count := by
  have pos := schema.steps_pos
  cases starts with
  | fresh => exact pos
  | restored state =>
      show (min state.index (schema.steps.length - 1 : Int)).toNat < schema.steps.length
      omega

theorem currentSection?_isSome (stepped : sequence.schema.isMultiStep = true)
    (within : sequence.index < sequence.count) : sequence.currentSection?.isSome = true := by
  rw [count_eq stepped] at within
  rw [currentSection?, List.getElem?_eq_getElem within]
  rfl

end StepSequence

/-- The data that went to the host, if it did. -/
def Event.submission? : Event → Option (Entries Value)
  | .submitted data => some data
  | _ => none

namespace Workspace

variable {w w' start : Workspace} {steps first : StepRun} {schema : Schema}
  {receive : Entries Value → Effect Unit} {on back : Nat}

/-- The data of completed forms that went to the host. -/
def submissions (w : Workspace) : List (Entries Value) := w.events.filterMap (·.submission?)

theorem Adds.submissions (h : w.Adds w') : w'.submissions = w.submissions := by
  obtain ⟨more, same, silent⟩ := h
  have none : more.filterMap (·.submission?) = [] := by
    rw [List.filterMap_eq_nil_iff]
    intro event member
    cases event with
    | submitted data => exact absurd member (silent data)
    | changed | shown | called => rfl
  rw [Workspace.submissions, Workspace.submissions, same, List.filterMap_append, none,
    List.append_nil]

theorem submissions_addEvent (w : Workspace) (data : Entries Value) :
    (w.addEvent (.submitted data)).submissions = w.submissions ++ [data] := by
  simp [Workspace.submissions, addEvent, Event.submission?]

/-! ## Functions that take the data -/

/-- Hand in the data of the current step, where some function takes the data of the completed
    form. -/
def advanceTo (receive : Entries Value → Effect Unit) (data : Entries Value) : Effect Bool := do
  let run ← currentRun
  let sequence ← Effect.orFault .completed (run.sequence.advance? data)
  modify fun workspace => { workspace with run := some { run with sequence } }
  modify (·.addNotices [sequence.advanceNotice])
  if sequence.completed then receive sequence.data
  return sequence.completed

theorem advance_eq_handIn (running : w.run = some steps) (data : Entries Value) :
    advance data w = advanceTo (handIn steps.submission) data w := by
  rw [advance, advanceTo, Effect.bind_of_ok (currentRun_apply running),
    Effect.bind_of_ok (currentRun_apply running)]

/-- How many steps on handing in data takes a host: one, unless it fails or completes the form. -/
def stepsOn (receive : Entries Value → Effect Unit) (data : Entries Value) (w : Workspace) : Nat :=
  if (advanceTo receive data w).1 matches .ok false then 1 else 0

/-- How many steps back going back takes a host: one, unless it fails or is at the first step. -/
def stepsBack (w : Workspace) : Nat :=
  if (retreat w).1.isOk && w.stepIndex? != some 0 then 1 else 0

/-- What becomes of a workspace while a host hands in data and goes back, and in between does
    whatever leaves the steps alone; with how many steps it went on and how many back. -/
inductive Driven (receive : Entries Value → Effect Unit) (start : Workspace) :
    Nat → Nat → Workspace → Prop where
  | here : Driven receive start 0 0 start
  | elsewhere {on back : Nat} {w w' : Workspace} (driven : Driven receive start on back w)
      (run : w'.run = w.run) (events : w.Adds w') : Driven receive start on back w'
  | advanced {on back : Nat} {w : Workspace} (driven : Driven receive start on back w)
      (data : Entries Value) :
      Driven receive start (on + w.stepsOn receive data) back (advanceTo receive data w).2
  | retreated {on back : Nat} {w : Workspace} (driven : Driven receive start on back w) :
      Driven receive start on (back + w.stepsBack) (retreat w).2

/-- Note the data, and have a function take it. -/
def noting (receive : Entries Value → Effect Unit) (data : Entries Value) : Effect Unit := do
  modify (·.addEvent (.submitted data))
  receive data

/-- A function of the host that takes the data of a completed form. Whatever it does to the steps
    of that form it does by handing in data and going back. -/
structure Receiver where
  receive : Entries Value → Effect Unit
  drives : ∀ data w steps, w.run = some steps → steps.sequence.completed = true →
    ∃ on back, Driven (noting receive) w on back (receive data w).2

/-- Hand the data of a completed form to the host, if it has a function that takes it. -/
def handTo : Option Receiver → Entries Value → Effect Unit
  | none, _ => pure ()
  | some receiver, data => noting receiver.receive data

end Workspace

def Submission.receiver? : Submission → Option Workspace.Receiver
  | .ignored => none
  | .accepted => some
      { receive := fun _ => pure (), drives := fun _ _ _ _ _ => ⟨0, 0, .here⟩ }
  | .failing fault => some
      { receive := fun _ => throw (.host fault), drives := fun _ _ _ _ _ => ⟨0, 0, .here⟩ }

namespace Workspace

variable {w w' start : Workspace} {steps first : StepRun} {schema : Schema}
  {receive : Entries Value → Effect Unit} {receiver : Option Receiver} {on back : Nat}

theorem handIn_eq_handTo (submission : Submission) :
    handIn submission = handTo submission.receiver? := by
  cases submission <;> rfl

theorem advance_eq_handTo (running : w.run = some steps) (data : Entries Value) :
    advance data w = advanceTo (handTo steps.submission.receiver?) data w := by
  rw [advance_eq_handIn running, handIn_eq_handTo]

/-! ## After completion -/

theorem advanceTo_completed (running : w.run = some steps)
    (completed : steps.sequence.completed = true) (data : Entries Value) :
    advanceTo receive data w = (.error .completed, w) := by
  have refused : steps.sequence.advance? data = none :=
    StepSequence.advance?_eq_none_iff.mpr completed
  rw [advanceTo, Effect.bind_of_ok (currentRun_apply running), refused]
  rfl

theorem retreat_completed (running : w.run = some steps)
    (completed : steps.sequence.completed = true) : retreat w = (.error .completed, w) := by
  have refused := StepSequence.retreat?_eq_none_iff.mpr completed
  rw [retreat, Effect.bind_of_ok (currentRun_apply running), refused]
  rfl

theorem Driven.of_completed (driven : Driven receive start on back w)
    (running : start.run = some steps) (completed : steps.sequence.completed = true) :
    w.run = some steps ∧ start.Adds w := by
  induction driven with
  | here => exact ⟨running, .refl start⟩
  | elsewhere _ run events ih => exact ⟨run.trans ih.1, ih.2.trans events⟩
  | advanced _ data ih =>
      rw [advanceTo_completed ih.1 completed]
      exact ih
  | retreated _ ih =>
      rw [retreat_completed ih.1 completed]
      exact ih

/-! ## Before completion -/

/-- What goes to the host when a sequence gets from one state to another. -/
def told (receiver : Option Receiver) (before after : StepSequence) : List (Entries Value) :=
  if receiver.isSome && !before.completed && after.completed then [after.data] else []

theorem told_of_completed {before : StepSequence} (completed : before.completed = true)
    (after : StepSequence) : told receiver before after = [] := by
  simp [told, completed]

theorem told_of_unfinished {after : StepSequence} (unfinished : after.completed = false)
    (before : StepSequence) : told receiver before after = [] := by
  simp [told, unfinished]

theorem advanceTo_some (running : w.run = some steps) {data : Entries Value}
    {next : StepSequence} (moved : steps.sequence.advance? data = some next) :
    advanceTo receive data w =
      ((if next.completed then receive next.data else pure ()) >>= fun _ =>
        pure next.completed) (w.moveTo steps next) := by
  have found : Effect.orFault .completed (steps.sequence.advance? data) w = (.ok next, w) := by
    rw [moved]
    rfl
  rw [advanceTo, Effect.bind_of_ok (currentRun_apply running), Effect.bind_of_ok found,
    Effect.modify_bind, Effect.modify_bind]
  cases ended : next.completed <;> rfl

theorem advanceTo_unfinished (running : w.run = some steps) {data : Entries Value}
    {next : StepSequence} (moved : steps.sequence.advance? data = some next)
    (unfinished : next.completed = false) :
    advanceTo receive data w = (.ok false, w.moveTo steps next) := by
  rw [advanceTo_some running moved, unfinished]
  rfl

/-- Whatever the function of the host does with the data of the completed form, it finds the form
    completed and leaves it so. -/
theorem handTo_spares (receiver : Option Receiver) (running : w.run = some steps)
    (completed : steps.sequence.completed = true) (data : Entries Value) :
    (handTo receiver data w).2.run = some steps ∧
      (handTo receiver data w).2.submissions =
        w.submissions ++ if receiver.isSome then [data] else [] := by
  cases receiver with
  | none => exact ⟨running, (List.append_nil _).symm⟩
  | some receiver =>
      have noted : (w.addEvent (.submitted data)).run = some steps := running
      obtain ⟨on, back, driven⟩ := receiver.drives data _ steps noted completed
      obtain ⟨still, silent⟩ := driven.of_completed noted completed
      exact ⟨still, silent.submissions.trans (submissions_addEvent w data)⟩

theorem advanceTo_last (receiver : Option Receiver) (running : w.run = some steps)
    {data : Entries Value} {next : StepSequence} (moved : steps.sequence.advance? data = some next)
    (completed : next.completed = true) :
    (advanceTo (handTo receiver) data w).1 ≠ .ok false ∧
      (advanceTo (handTo receiver) data w).2.run = some { steps with sequence := next } ∧
      (advanceTo (handTo receiver) data w).2.submissions =
        w.submissions ++ if receiver.isSome then [next.data] else [] := by
  rw [advanceTo_some running moved, completed, if_pos rfl]
  refine ⟨?_, ?_⟩
  · intro same
    rcases ran : handTo receiver next.data (w.moveTo steps next) with ⟨fault | _, after⟩
    · rw [Effect.bind_of_error ran] at same
      cases same
    · rw [Effect.bind_of_ok ran] at same
      cases same
  · rw [Effect.snd_bind_pure]
    exact handTo_spares receiver (w := w.moveTo steps next) rfl completed next.data

/-! ## Whole runs -/

/-- What holds of the steps while a host drives them. -/
structure Drove (schema : Schema) (receiver : Option Receiver) (start : Workspace)
    (first : StepRun) (on back : Nat) (w : Workspace) (steps : StepRun) : Prop where
  running : w.run = some steps
  isOf : steps.sequence.schema = schema
  within : steps.sequence.index < steps.sequence.count
  counted : steps.sequence.index + back = first.sequence.index + on
  unfinished : steps.sequence.completed = false → first.sequence.completed = false
  submitted : w.submissions =
    start.submissions ++ told receiver first.sequence steps.sequence

theorem stepsOn_of_ne {data : Entries Value} (h : (advanceTo receive data w).1 ≠ .ok false) :
    w.stepsOn receive data = 0 := by
  rw [stepsOn, if_neg]
  intro on
  split at on
  next same => exact h same
  next => cases on

theorem Drove.tell (h : Drove schema receiver start first on back w steps)
    (open_ : steps.sequence.completed = false) (next : StepSequence) :
    start.submissions ++ told receiver first.sequence next =
      w.submissions ++ told receiver steps.sequence next := by
  have silent : told receiver first.sequence steps.sequence = [] := told_of_unfinished open_ _
  rw [h.submitted, silent, List.append_nil, told, told, open_, h.unfinished open_]

theorem Drove.advance (h : Drove schema receiver start first on back w steps)
    (data : Entries Value) : ∃ next,
      Drove schema receiver start first (on + w.stepsOn (handTo receiver) data) back
        (advanceTo (handTo receiver) data w).2 next ∧
      (steps.sequence.completed = false →
        steps.sequence.advance? data = some next.sequence) ∧
      (advanceTo (handTo receiver) data w).2.submissions =
        w.submissions ++ told receiver steps.sequence next.sequence := by
  cases moved : steps.sequence.advance? data with
  | none =>
      have completed := StepSequence.advance?_eq_none_iff.mp moved
      rw [stepsOn, advanceTo_completed h.running completed]
      refine ⟨steps, h, fun open_ => ?_, ?_⟩
      · rw [completed] at open_
        cases open_
      · rw [told_of_completed completed, List.append_nil]
  | some next =>
      have isOf := (StepSequence.advance?_schema moved).trans h.isOf
      have within := StepSequence.advance?_within h.within moved
      have counted := h.counted
      obtain ⟨open_, ⟨-, same⟩ | ⟨-, same⟩⟩ := StepSequence.advance?_cases moved
      · -- the last step: the form is completed where it stands
        have completed : next.completed = true := by rw [same]
        obtain ⟨last, running, submitted⟩ :=
          advanceTo_last receiver h.running moved completed
        have tells : told receiver steps.sequence next =
            if receiver.isSome then [next.data] else [] := by
          simp [told, open_, completed]
        rw [← tells] at submitted
        rw [stepsOn_of_ne last]
        refine ⟨_, ⟨running, isOf, within, ?_, fun open' => ?_, ?_⟩, fun _ => rfl, submitted⟩
        · rw [same]
          exact counted
        · rw [completed] at open'
          cases open'
        · rw [submitted, h.tell open_]
      · have unfinished : next.completed = false := by rw [same]; exact open_
        rw [stepsOn, advanceTo_unfinished h.running moved unfinished]
        have silent : told receiver steps.sequence next = [] := told_of_unfinished unfinished _
        refine ⟨{ steps with sequence := next },
          ⟨rfl, isOf, within, ?_, fun _ => h.unfinished open_, ?_⟩, fun _ => rfl, ?_⟩
        · show next.index + back = first.sequence.index + (on + 1)
          rw [same]
          show steps.sequence.index + 1 + back = _
          omega
        · rw [h.tell open_, silent, List.append_nil]
          rfl
        · rw [silent, List.append_nil]
          rfl

theorem stepsBack_some (running : w.run = some steps) {next : StepSequence}
    (back : steps.sequence.retreat? = some next) :
    next.index + w.stepsBack = steps.sequence.index := by
  obtain ⟨-, same⟩ := StepSequence.retreat?_cases back
  rw [stepsBack, retreat_some running back, stepIndex?_eq running, same]
  show steps.sequence.index - 1 + (if some steps.sequence.index != some 0 then 1 else 0) = _
  by_cases first : steps.sequence.index = 0
  · simp [first]
  · have later : (some steps.sequence.index != some 0) = true := by simpa using first
    rw [if_pos later]
    omega

theorem Drove.retreat (h : Drove schema receiver start first on back w steps) : ∃ next,
    Drove schema receiver start first on (back + w.stepsBack) (Workspace.retreat w).2 next ∧
      (Workspace.retreat w).2.submissions = w.submissions := by
  cases moved : steps.sequence.retreat? with
  | none =>
      have completed := StepSequence.retreat?_eq_none_iff.mp moved
      rw [stepsBack, retreat_completed h.running completed]
      exact ⟨steps, h, rfl⟩
  | some next =>
      have counted := h.counted
      have less := stepsBack_some h.running moved
      obtain ⟨open_, same⟩ := StepSequence.retreat?_cases moved
      have silent : ∀ before, told receiver before next = [] := by
        rw [same]
        exact told_of_unfinished open_
      rw [retreat_some h.running moved]
      refine ⟨{ steps with sequence := next },
        ⟨rfl, ?_, ?_, ?_, fun _ => h.unfinished open_, ?_⟩, rfl⟩
      · rw [same]
        exact h.isOf
      · rw [same]
        exact Nat.lt_of_le_of_lt (Nat.sub_le _ _) h.within
      · show next.index + (back + w.stepsBack) = _
        omega
      · rw [silent, List.append_nil]
        exact h.submitted.trans (by rw [told_of_unfinished open_, List.append_nil])

theorem Driven.drove (driven : Driven (handTo receiver) start on back w)
    (running : start.run = some first) (starts : first.sequence.Starts schema) :
    ∃ steps, Drove schema receiver start first on back w steps := by
  induction driven with
  | here =>
      refine ⟨first, running, starts.schema_eq, starts.within, rfl, id, ?_⟩
      cases completed : first.sequence.completed with
      | false => rw [told_of_unfinished completed, List.append_nil]
      | true => rw [told_of_completed completed, List.append_nil]
  | elsewhere _ run events ih =>
      obtain ⟨steps, h⟩ := ih
      exact ⟨steps, { h with running := run.trans h.running
                             submitted := events.submissions.trans h.submitted }⟩
  | advanced _ data ih =>
      obtain ⟨steps, h⟩ := ih
      obtain ⟨next, drove, -⟩ := h.advance data
      exact ⟨next, drove⟩
  | retreated _ ih =>
      obtain ⟨steps, h⟩ := ih
      obtain ⟨next, drove, -⟩ := h.retreat
      exact ⟨next, drove⟩

/-- A host drives the steps of a form from the beginning, or from any state that was kept. There
    always is a current step: the first one, more the steps on, less the steps back. The function
    of the host that takes the data is called once at most, by the call that completes the form
    and with the data merged by then. A completed form refuses to move, and stays as it is. -/
theorem Driven.submits_once (driven : Driven (handTo receiver) start on back w)
    (running : start.run = some first) (starts : first.sequence.Starts schema) :
    ∃ steps, w.run = some steps ∧ steps.sequence.schema = schema ∧
      steps.sequence.index < schema.steps.length ∧
      schema.steps[steps.sequence.index]? = some steps.sequence.current ∧
      (schema.isMultiStep = true → steps.sequence.currentSection?.isSome = true) ∧
      (steps.sequence.index : Int) = first.sequence.index + on - back ∧
      w.submissions = start.submissions ++ told receiver first.sequence steps.sequence ∧
      (∀ data, ∃ next, (advanceTo (handTo receiver) data w).2.run = some next ∧
        (steps.sequence.completed = false →
          steps.sequence.advance? data = some next.sequence) ∧
        (advanceTo (handTo receiver) data w).2.submissions =
          w.submissions ++ told receiver steps.sequence next.sequence) ∧
      (retreat w).2.submissions = w.submissions ∧
      (steps.sequence.completed = true →
        (∀ data, advanceTo (handTo receiver) data w = (.error .completed, w)) ∧
        retreat w = (.error .completed, w)) ∧
      (receiver = steps.submission.receiver? →
        ∀ data, advance data w = advanceTo (handTo receiver) data w) := by
  obtain ⟨steps, h⟩ := driven.drove running starts
  have within := h.within
  rw [StepSequence.count, h.isOf] at within
  refine ⟨steps, h.running, h.isOf, within, ?_, ?_, ?_, h.submitted, ?_, ?_, ?_, ?_⟩
  · rw [← h.isOf]
    exact StepSequence.getElem?_steps h.within
  · intro stepped
    rw [← h.isOf] at stepped
    exact StepSequence.currentSection?_isSome stepped h.within
  · have counted := h.counted
    omega
  · intro data
    obtain ⟨next, drove, moves, submitted⟩ := h.advance data
    exact ⟨next, drove.running, moves, submitted⟩
  · obtain ⟨-, -, submitted⟩ := h.retreat
    exact submitted
  · intro completed
    exact ⟨advanceTo_completed h.running completed, retreat_completed h.running completed⟩
  · rintro rfl data
    exact advance_eq_handTo h.running data

/-! ## A host that hands in twice, for instance -/

/-- A function that hands in the data of the completed form once more. -/
def handInAgain : Receiver where
  receive data := discard (advanceTo (fun _ => pure ()) data)
  drives := by
    intro data w steps running completed
    refine ⟨0, 0, ?_⟩
    rw [Effect.discard_eq, Effect.snd_bind_pure, advanceTo_completed running completed]
    exact .here

/-- The form about a pet, taken up again from a state with a step that it does not have. -/
def petLate : Workspace where
  run := some
    { key := "pet", submission := .ignored
      sequence := .restore petSteps
        { index := 7, data := [("pet", .str "no")], startedAt := .zero } }

def petLateBack : Workspace := (retreat petLate).2

def petLateSaid : Workspace :=
  (advanceTo (handTo (some handInAgain)) [("pet", .str "yes")] petLateBack).2

def petLateDone : Workspace :=
  (advanceTo (handTo (some handInAgain)) [("petName", .str "Rex")] petLateSaid).2

theorem petLateDone_submits_once :
    Driven (handTo (some handInAgain)) petLate 1 1 petLateDone ∧
      (advanceTo (handTo (some handInAgain)) [("petName", .str "Rex")] petLateSaid).1.isOk =
        false ∧
      petLateDone.position = some (1, true) ∧
      petLateDone.submissions = [[("pet", .str "yes"), ("petName", .str "Rex")]] ∧
      retreat petLateDone = (.error .completed, petLateDone) := by
  have back : Driven (handTo (some handInAgain)) petLate 0 1 petLateBack := .retreated .here
  have said : Driven (handTo (some handInAgain)) petLate 1 1 petLateSaid := back.advanced _
  have done : Driven (handTo (some handInAgain)) petLate 1 1 petLateDone := said.advanced _
  obtain ⟨steps, running, -, -, -, -, -, submitted, -, -, refuses, -⟩ :=
    done.submits_once rfl (.restored _)
  cases running
  exact ⟨done, rfl, rfl, submitted, (refuses rfl).2⟩

end Workspace

end Formwork
