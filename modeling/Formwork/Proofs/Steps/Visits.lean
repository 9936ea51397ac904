import Formwork.Proofs.Steps.Completion
import Formwork.Proofs.Host.Recording

/-! # Sessions of any step

A host may keep every session that it has opened for a step, write to it at any time, and
submit it whatever the current step is. What moves the steps on was accepted by the rules of
the step for which its session was opened, which need not be the step that it moves on from.
-/

namespace Formwork

/-- The rules of a step accept values, some of which are shown. -/
def Schema.Accepts (schema : Schema) (options : CompileOptions) (step : Nat)
    (values : Entries Value) (map : Visibility) : Prop :=
  ∃ form rules, schema.steps[step]? = some form ∧ Ruleset.compile options form = .ok rules ∧
    (rules.validate values (some map)).isClean = true

namespace Workspace

/-- A submission that moved the steps on. -/
structure Pass where
  /-- The step that it moved on from. -/
  step : Nat
  /-- The step for which its session was opened. -/
  opened : Nat
  values : Entries Value
  map : Visibility

def pass (w : Workspace) (opened : Nat) (session : Session) : Pass where
  step := w.stepIndex?.getD 0
  opened := opened
  values := w.valuesOf session
  map := w.visibilityOf session

/-- The submission of a session, if it moves the steps on. -/
def passes (w : Workspace) (opened : Nat) (session : Session) : List Pass :=
  if (submitStep session w).2.position = w.position then [] else [w.pass opened session]

/-- The workspaces in which steps are under way, with the sessions opened since the first of
    them and the steps for which they were opened, and with the submissions so far that moved
    the steps on. -/
inductive Visiting (schema : Schema) : List (Nat × Session) → List Pass → Workspace → Prop where
  | began {w w' : Workspace} {key : String} {submission : Submission} {result : Result}
      (records : w.Records) (found : w.schemas.get? key = some schema)
      (ran : act (.begin key submission) w = (.ok result, w')) : Visiting schema [] [] w'
  | opened {known : List (Nat × Session)} {made : List Pass} {w w' : Workspace} {step : Nat}
      {session : Session} (visiting : Visiting schema known made w)
      (here : w.stepIndex? = some step)
      (ran : openStep (callbacks w.depthLimit) w = (.ok session, w')) :
      Visiting schema ((step, session) :: known) made w'
  | refused {known : List (Nat × Session)} {made : List Pass} {w w' : Workspace} {fault : Fault}
      (visiting : Visiting schema known made w)
      (ran : openStep (callbacks w.depthLimit) w = (.error fault, w')) :
      Visiting schema known made w'
  | wrote {known : List (Nat × Session)} {made : List Pass} {w : Workspace} {step : Nat}
      {session : Session} (visiting : Visiting schema known made w)
      (member : (step, session) ∈ known) (values : Entries Value) :
      Visiting schema known made (setValues (callbacks w.depthLimit) session.store values w).2
  | submitted {known : List (Nat × Session)} {made : List Pass} {w : Workspace} {step : Nat}
      {session : Session} (visiting : Visiting schema known made w)
      (member : (step, session) ∈ known) :
      Visiting schema known (made ++ w.passes step session) (submitStep session w).2
  | retreated {known : List (Nat × Session)} {made : List Pass} {w : Workspace}
      (visiting : Visiting schema known made w) :
      Visiting schema known made (act .retreat w).2

variable {w w' : Workspace} {schema : Schema} {known : List (Nat × Session)}
  {made : List Pass} {steps : StepRun} {session : Session} {step : Nat}

/-- What holds of the steps, of the sessions opened for them and of the submissions that moved
    them on. -/
structure Visited (schema : Schema) (known : List (Nat × Session)) (made : List Pass)
    (w : Workspace) (steps : StepRun) : Prop where
  records : w.Records
  running : w.run = some steps
  isOf : steps.sequence.schema = schema
  within : steps.sequence.index < steps.sequence.count
  compiled : ∀ step session, (step, session) ∈ known → ∃ form, schema.steps[step]? = some form ∧
    Ruleset.compile w.options form = .ok session.rules
  accepted : ∀ pass ∈ made, schema.Accepts w.options pass.opened pass.values pass.map
  left : ∀ step < steps.sequence.passed, ∃ pass ∈ made, pass.step = step

theorem Visited.sameButForms (h : Visited schema known made w steps) (same : w.SameButForms w') :
    Visited schema known made w' steps where
  records := same.records
  running := same.run.trans h.running
  isOf := h.isOf
  within := h.within
  compiled := same.options.symm ▸ h.compiled
  accepted := same.options.symm ▸ h.accepted
  left := h.left

theorem visited_begin {key : String} {submission : Submission} {result : Result}
    (records : w.Records) (found : w.schemas.get? key = some schema)
    (ran : act (.begin key submission) w = (.ok result, w')) :
    ∃ steps, Visited schema [] [] w' steps := by
  obtain rfl := begin_eq found ran
  refine ⟨_, ⟨records.scripts, records.watchScripts⟩, rfl, rfl, Schema.steps_pos _, ?_, ?_, ?_⟩
  · intro step session member
    cases member
  · intro pass member
    cases member
  · intro step before
    cases before

theorem openStep_sameButForms (records : w.Records) (running : w.run = some steps) :
    w.SameButForms (openStep (callbacks w.depthLimit) w).2 := by
  rw [openStep_apply running]
  exact (openSession_recorded records _ _ _ _).leads records

theorem Visited.openStep (h : Visited schema known made w steps)
    (ran : Workspace.openStep (callbacks w.depthLimit) w = (.ok session, w')) :
    Visited schema ((steps.sequence.index, session) :: known) made w' steps := by
  have same := openStep_sameButForms h.records h.running
  rw [ran] at same
  rw [openStep_apply h.running] at ran
  obtain ⟨-, compiles⟩ := openSession_compiles ran
  have here : schema.steps[steps.sequence.index]? = some steps.sequence.current :=
    h.isOf ▸ StepSequence.getElem?_steps h.within
  have still := h.sameButForms same
  refine { still with compiled := ?_ }
  intro opened other member
  rcases List.mem_cons.mp member with new | before
  · cases new
    exact ⟨_, here, same.options.symm ▸ compiles⟩
  · exact still.compiled opened other before

/-! ## Submitting -/

/-- What a submission does that moves the steps on. -/
structure Moves (w : Workspace) (steps : StepRun) (session : Session) (next : StepSequence) :
    Prop where
  clean : (session.rules.validate (w.valuesOf session)
    (some (w.visibilityOf session))).isClean = true
  advances : steps.sequence.advance? (payload w session) = some next
  run : (submitStep session w).2.run = some { steps with sequence := next }
  options : (submitStep session w).2.options = w.options
  records : (submitStep session w).2.Records

theorem submitStep_moves (records : w.Records) (running : w.run = some steps)
    (session : Session) :
    w.SameButForms (submitStep session w).2 ∨ ∃ next, w.Moves steps session next := by
  obtain ⟨between, notes, same | ⟨clean, handed⟩⟩ := submitStep_hands records session
  · rw [same]
    exact .inl notes.sameButForms
  · have still : between.run = some steps := notes.sameButForms.run.trans running
    rcases advance_cases still (payload w session) with ⟨-, same⟩ | ⟨next, moved, result⟩
    · rw [handed, same]
      exact .inl notes.sameButForms
    · have kept : between.options = w.options := notes.options
      have onward : (between.moveTo steps next).Records :=
        ⟨notes.records.scripts, notes.records.watchScripts⟩
      refine .inr ⟨next, clean, moved, ?_, ?_, ?_⟩ <;>
        rcases result with same | ⟨-, same⟩ <;> rw [handed, same]
      · rfl
      · rfl
      · exact kept
      · exact kept
      · exact onward
      · exact ⟨onward.scripts, onward.watchScripts⟩

theorem Moves.position_ne {next : StepSequence} (moves : w.Moves steps session next)
    (running : w.run = some steps) : (submitStep session w).2.position ≠ w.position := by
  obtain ⟨unfinished, ⟨-, moved⟩ | ⟨-, moved⟩⟩ := StepSequence.advance?_cases moves.advances
  · simp [position, moves.run, running, moved, unfinished]
  · simp [position, moves.run, running, moved]

theorem passes_of_sameButForms (same : w.SameButForms (submitStep session w).2) :
    w.passes step session = [] := by
  rw [passes, if_pos]
  rw [position, position, same.run]

theorem Moves.passes_eq {next : StepSequence} (moves : w.Moves steps session next)
    (running : w.run = some steps) : w.passes step session = [w.pass step session] := by
  rw [passes, if_neg (moves.position_ne running)]

theorem Visited.accepts (h : Visited schema known made w steps)
    (member : (step, session) ∈ known) {next : StepSequence}
    (moves : w.Moves steps session next) :
    schema.Accepts w.options step (w.valuesOf session) (w.visibilityOf session) := by
  obtain ⟨form, here, compiles⟩ := h.compiled step session member
  exact ⟨form, _, here, compiles, moves.clean⟩

theorem Visited.submitStep (h : Visited schema known made w steps)
    (member : (step, session) ∈ known) : ∃ later,
      Visited schema known (made ++ w.passes step session) (submitStep session w).2 later := by
  rcases submitStep_moves h.records h.running session with same | ⟨next, moves⟩
  · rw [passes_of_sameButForms same, List.append_nil]
    exact ⟨steps, h.sameButForms same⟩
  · rw [moves.passes_eq h.running]
    have isOf := StepSequence.advance?_schema moves.advances
    obtain ⟨before, now⟩ := StepSequence.advance?_passed moves.advances
    refine ⟨{ steps with sequence := next }, moves.records, moves.run, isOf.trans h.isOf,
      StepSequence.advance?_within h.within moves.advances, moves.options.symm ▸ h.compiled,
      moves.options.symm ▸ ?_, ?_⟩
    · intro pass listed
      rcases List.mem_append.mp listed with early | new
      · exact h.accepted pass early
      · cases List.mem_singleton.mp new
        exact h.accepts member moves
    · -- the step it moves on from comes after those that were left before
      intro left less
      rw [now] at less
      rcases Nat.lt_succ_iff_lt_or_eq.mp less with early | same
      · obtain ⟨pass, listed, is⟩ := h.left left (before ▸ early)
        exact ⟨pass, List.mem_append_left _ listed, is⟩
      · refine ⟨_, List.mem_append_right _ List.mem_cons_self, ?_⟩
        rw [pass, stepIndex?_eq h.running, same]
        rfl

theorem Visited.retreat (h : Visited schema known made w steps) :
    ∃ later, Visited schema known made (act .retreat w).2 later := by
  rcases retreat_cases h.running with ⟨-, same⟩ | ⟨next, back, same⟩
  · rw [same]
    exact ⟨steps, h⟩
  · obtain ⟨unfinished, rfl⟩ := StepSequence.retreat?_cases back
    rw [same]
    refine ⟨_, ⟨h.records.scripts, h.records.watchScripts⟩, rfl, h.isOf,
      Nat.lt_of_le_of_lt (Nat.sub_le _ _) h.within, h.compiled, h.accepted, ?_⟩
    intro left less
    refine h.left left ?_
    rw [StepSequence.passed, if_neg (by simp [unfinished])] at less ⊢
    exact Nat.lt_of_lt_of_le less (Nat.sub_le _ _)

theorem Visiting.visited (visiting : Visiting schema known made w) :
    ∃ steps, Visited schema known made w steps := by
  induction visiting with
  | began records found ran => exact visited_begin records found ran
  | opened _ here ran ih =>
      obtain ⟨steps, visited⟩ := ih
      rw [stepIndex?_eq visited.running] at here
      cases here
      exact ⟨steps, visited.openStep ran⟩
  | refused _ ran ih =>
      obtain ⟨steps, visited⟩ := ih
      have same := openStep_sameButForms visited.records visited.running
      rw [ran] at same
      exact ⟨steps, visited.sameButForms same⟩
  | wrote _ _ values ih =>
      obtain ⟨steps, visited⟩ := ih
      exact ⟨steps, visited.sameButForms (setValues_records visited.records _ _ values)⟩
  | submitted _ member ih =>
      obtain ⟨steps, visited⟩ := ih
      exact visited.submitStep member
  | retreated _ ih =>
      obtain ⟨steps, visited⟩ := ih
      exact visited.retreat

/-- Of the submissions that were made there is a last one from a step, if there is any. -/
theorem last_pass {step : Nat} (some : ∃ pass ∈ made, pass.step = step) :
    ∃ earlier pass later, made = earlier ++ pass :: later ∧ pass.step = step ∧
      ∀ other ∈ later, other.step ≠ step := by
  obtain ⟨pass, listed, is⟩ := some
  have found : (made.reverse.find? (·.step = step)).isSome = true :=
    List.find?_isSome.mpr ⟨pass, List.mem_reverse.mpr listed, by simpa using is⟩
  obtain ⟨last, found⟩ := Option.isSome_iff_exists.mp found
  obtain ⟨here, after, before, split, none⟩ := List.find?_eq_some_iff_append.mp found
  refine ⟨before.reverse, last, after.reverse, ?_, by simpa using here, ?_⟩
  · rw [← List.reverse_reverse made, split]
    simp
  · intro other member
    simpa using none other (List.mem_reverse.mp member)

/-- What moved the steps on was accepted by the rules of the step for which its session was
    opened. When the form is completed each step has been moved on from, for the last time with
    values that the step's own rules accepted, if the session was opened for it. -/
theorem Visiting.passes_accepted (visiting : Visiting schema known made w) :
    (∀ pass ∈ made, schema.Accepts w.options pass.opened pass.values pass.map) ∧
    (∀ step session, (step, session) ∈ known → (submitStep session w).2.position ≠ w.position →
      schema.Accepts w.options step (w.valuesOf session) (w.visibilityOf session) ∧
      ∃ steps next, w.run = some steps ∧
        steps.sequence.advance? (payload w session) = some next ∧
        (submitStep session w).2.run = some { steps with sequence := next }) ∧
    (∀ steps, w.run = some steps → steps.sequence.completed = true →
      ∀ step < schema.steps.length, ∃ earlier pass later, made = earlier ++ pass :: later ∧
        pass.step = step ∧ (∀ other ∈ later, other.step ≠ step) ∧
        (pass.opened = step → schema.Accepts w.options step pass.values pass.map)) := by
  obtain ⟨steps, visited⟩ := visiting.visited
  refine ⟨visited.accepted, ?_, ?_⟩
  · intro step session member moved
    rcases submitStep_moves visited.records visited.running session with same | ⟨next, moves⟩
    · -- without a move the position is what it was
      exact absurd (by rw [position, position, same.run]) moved
    · exact ⟨visited.accepts member moves, steps, next, visited.running, moves.advances,
        moves.run⟩
  · intro found running ended step less
    rw [visited.running] at running
    cases running
    have reached : step < steps.sequence.passed := by
      rw [StepSequence.passed, if_pos ended, StepSequence.count, visited.isOf]
      exact less
    obtain ⟨earlier, pass, later, split, is, last⟩ := last_pass (visited.left step reached)
    refine ⟨earlier, pass, later, split, is, last, fun own => ?_⟩
    rw [← own]
    exact visited.accepted pass (split ▸ List.mem_append_right _ List.mem_cons_self)

/-! ## A session that is submitted twice, for instance -/

def petPage : Session :=
  (openStep (callbacks petBegun.depthLimit) petBegun).1.toOption.getD default

def petPaged : Workspace := (openStep (callbacks petBegun.depthLimit) petBegun).2

def petGiven : Workspace :=
  (setValues (callbacks petPaged.depthLimit) petPage.store [("pet", .str "yes")] petPaged).2

def petOnce : Workspace := (submitStep petPage petGiven).2

def petTwice : Workspace := (submitStep petPage petOnce).2

theorem petOnce_visiting : Visiting petSteps [(0, petPage)]
    [{ step := 0, opened := 0, values := [("pet", .str "yes")], map := [("pet", true)] }]
    petOnce := by
  have ran : act (.begin "pet" .accepted) { schemas := [("pet", petSteps)] } =
      (.ok .done, petBegun) := rfl
  have began : Visiting petSteps [] [] petBegun := .began (.unscripted rfl rfl) rfl ran
  have paged : Visiting petSteps [(0, petPage)] [] petPaged := began.opened rfl rfl
  have given : Visiting petSteps [(0, petPage)] [] petGiven :=
    paged.wrote List.mem_cons_self [("pet", .str "yes")]
  exact given.submitted List.mem_cons_self

/-- The session of the first step, submitted twice, completes the form without a name. -/
theorem petTwice_not_accepted :
    Visiting petSteps [(0, petPage)]
        [{ step := 0, opened := 0, values := [("pet", .str "yes")], map := [("pet", true)] },
         { step := 1, opened := 0, values := [("pet", .str "yes")], map := [("pet", true)] }]
        petTwice ∧
      petTwice.position = some (1, true) ∧
      petTwice.run.map (·.sequence.data) = some [("pet", .str "yes")] ∧
      ¬petSteps.Accepts petTwice.options 1 [("pet", .str "yes")] [("pet", true)] := by
  refine ⟨petOnce_visiting.submitted List.mem_cons_self, rfl, rfl, ?_⟩
  rintro ⟨form, rules, here, compiles, clean⟩
  cases here
  cases compiles
  cases clean

def petNext : Session :=
  (openStep (callbacks petOnce.depthLimit) petOnce).1.toOption.getD default

def petNexted : Workspace := (openStep (callbacks petOnce.depthLimit) petOnce).2

def petDone : Workspace :=
  (submitStep petNext (setValues (callbacks petNexted.depthLimit) petNext.store
    [("petName", .str "Rex")] petNexted).2).2

theorem petDone_passes_accepted :
    Visiting petSteps [(1, petNext), (0, petPage)]
        [{ step := 0, opened := 0, values := [("pet", .str "yes")], map := [("pet", true)] },
         { step := 1, opened := 1, values := [("pet", .str "yes"), ("petName", .str "Rex")]
           map := [("petName", true)] }]
        petDone ∧
      petDone.position = some (1, true) ∧
      petSteps.Accepts petDone.options 1 [("pet", .str "yes"), ("petName", .str "Rex")]
        [("petName", true)] := by
  have nexted : Visiting petSteps [(1, petNext), (0, petPage)] _ petNexted :=
    petOnce_visiting.opened rfl rfl
  have done := (nexted.wrote List.mem_cons_self [("petName", .str "Rex")]).submitted
    List.mem_cons_self
  refine ⟨done, rfl, ?_⟩
  obtain ⟨earlier, pass, later, split, is, -, own⟩ :=
    done.passes_accepted.2.2 _ rfl rfl 1 Nat.one_lt_two
  have listed := split ▸ List.mem_append_right earlier (List.mem_cons_self (a := pass) (l := later))
  rcases List.mem_cons.mp listed with rfl | other
  · cases is
  · cases List.mem_singleton.mp other
    exact own rfl

end Workspace

end Formwork
