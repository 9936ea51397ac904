import Formwork.Proofs.Steps.Underway

/-! # Completed forms

A form in steps may be filled in over many sessions, and a host may go back to earlier steps and
change what later ones depend on. What is handed in at the end answers the whole form all the
same, as long as each step is filled in with a session that was opened after the steps last moved.
-/

namespace Formwork.Workspace

variable {w w' : Workspace} {steps : StepRun} {id : Nat} {schema : Schema} {before : List Event}
  {current : Bool}

/-- The index of the current step, if steps are under way. -/
def stepIndex? (w : Workspace) : Option Nat := w.run.map (·.sequence.index)

/-- The current step, and whether the form is completed. -/
def position (w : Workspace) : Option (Nat × Bool) :=
  w.run.map fun steps => (steps.sequence.index, steps.sequence.completed)

/-- The names of the fields of the current step. -/
def stepNames (w : Workspace) : List String :=
  (w.run.map (·.sequence.current.fieldNames)).getD []

/-- The workspaces in which a form is being filled in step by step, and whether the newest
    session was opened after the index last moved. -/
inductive Stepping (schema : Schema) (before : List Event) : Bool → Workspace → Prop where
  | began {w w' : Workspace} {key : String} {submission : Submission} {result : Result}
      (records : w.Records) (batches : w.batches = []) (found : w.schemas.get? key = some schema)
      (events : w.events = before) (ran : act (.begin key submission) w = (.ok result, w')) :
      Stepping schema before false w'
  | opened {current : Bool} {w : Workspace} (stepping : Stepping schema before current w) :
      Stepping schema before (current || (act .openStep w).1.isOk) (act .openStep w).2
  | set {w : Workspace} {name : String} {value : Value}
      (stepping : Stepping schema before true w) (own : name ∈ w.stepNames)
      (plain : value.Plain) : Stepping schema before true (act (.sessionSet name value) w).2
  | setMany {w : Workspace} {values : Entries Value}
      (stepping : Stepping schema before true w) (own : values.names ⊆ w.stepNames)
      (plain : ∀ entry ∈ values, entry.2.Plain) :
      Stepping schema before true (act (.sessionSetMany values) w).2
  | submitted {w : Workspace} (stepping : Stepping schema before true w) :
      Stepping schema before ((act .submitStep w).2.stepIndex? == w.stepIndex?)
        (act .submitStep w).2
  | retreated {current : Bool} {w : Workspace} (stepping : Stepping schema before current w) :
      Stepping schema before (current && (act .retreat w).2.stepIndex? == w.stepIndex?)
        (act .retreat w).2

theorem stepIndex?_eq (running : w.run = some steps) :
    w.stepIndex? = some steps.sequence.index := by
  rw [stepIndex?, running]
  rfl

theorem position_eq (running : w.run = some steps) :
    w.position = some (steps.sequence.index, steps.sequence.completed) := by
  rw [position, running]
  rfl

theorem stepNames_eq (running : w.run = some steps) :
    w.stepNames = steps.sequence.current.fieldNames := by
  rw [stepNames, running]
  rfl

/-! ## What each action keeps -/

theorem Underway.begin (looksBack : schema.LooksBack) {key : String} {submission : Submission}
    {result : Result} (records : w.Records) (batches : w.batches = [])
    (found : w.schemas.get? key = some schema)
    (ran : act (.begin key submission) w = (.ok result, w')) :
    ∃ steps, w'.Underway schema w.events steps := by
  obtain rfl := begin_eq found ran
  exact ⟨_, ⟨records.scripts, records.watchScripts⟩, batches, rfl, rfl,
    StepSequence.answers_begin looksBack w.now, [], (List.append_nil _).symm,
    fun _ none => absurd none List.not_mem_nil⟩

theorem Underway.write (h : w.Underway schema before steps) (c : w.Continues steps id)
    {values : Entries Value} (own : values.names ⊆ w.stepNames)
    (plain : ∀ entry ∈ values, entry.2.Plain) :
    (act (.sessionSetMany values) w).2.Underway schema before steps ∧
      (act (.sessionSetMany values) w).2.Continues steps id := by
  obtain ⟨_, after, ran, written⟩ :=
    sessionSetMany_form c.attends.used c.attends.listens values
  rw [ran]
  refine ⟨h.sameButForms written.sameButForm.toSameButForms,
    c.write plain (fun entry member => ?_) written⟩
  rw [← stepNames_eq h.running]
  exact own (List.mem_map.mpr ⟨entry, member, rfl⟩)

theorem act_sessionSet (name : String) (value : Value) (w : Workspace) :
    act (.sessionSet name value) w = act (.sessionSetMany [(name, value)]) w := rfl

/-! ## All actions -/

/-- The steps stay under way, and the newest session continues them if it was opened after the
    index last moved. -/
theorem Stepping.underway (stepping : Stepping schema before current w)
    (looksBack : schema.LooksBack) : ∃ steps, w.Underway schema before steps ∧
      (current = true → ∃ id, w.Continues steps id) := by
  induction stepping with
  | began records batches found events ran =>
      obtain ⟨steps, underway⟩ := Underway.begin looksBack records batches found ran
      rw [events] at underway
      exact ⟨steps, underway, fun opened => nomatch opened⟩
  | @opened _ w _ ih =>
      obtain ⟨steps, underway, continues⟩ := ih
      rcases ran : act .openStep w with ⟨fault | result, after⟩
      · obtain ⟨still, never⟩ := underway.refused ran
        refine ⟨steps, still, fun opened => ?_⟩
        -- the rules of a session that continued the steps would have compiled again
        obtain ⟨id, c⟩ := continues ((Bool.or_false _).symm.trans opened)
        exact absurd c (never id)
      · obtain ⟨still, continues⟩ := underway.openStep ran
        exact ⟨steps, still, fun _ => continues⟩
  | @set w name value _ own plain ih =>
      obtain ⟨steps, underway, continues⟩ := ih
      obtain ⟨id, c⟩ := continues rfl
      rw [act_sessionSet]
      have within : Entries.names [(name, value)] ⊆ w.stepNames :=
        List.cons_subset.mpr ⟨own, List.nil_subset _⟩
      obtain ⟨still, further⟩ := underway.write c within (List.forall_mem_singleton.mpr plain)
      exact ⟨steps, still, fun _ => ⟨id, further⟩⟩
  | setMany _ own plain ih =>
      obtain ⟨steps, underway, continues⟩ := ih
      obtain ⟨id, c⟩ := continues rfl
      obtain ⟨still, further⟩ := underway.write c own plain
      exact ⟨steps, still, fun _ => ⟨id, further⟩⟩
  | submitted _ ih =>
      obtain ⟨steps, underway, continues⟩ := ih
      obtain ⟨id, c⟩ := continues rfl
      obtain ⟨later, still, further⟩ := underway.submitStep c looksBack
      refine ⟨later, still, fun unmoved => ⟨id, further ?_⟩⟩
      rw [stepIndex?_eq still.running, stepIndex?_eq underway.running, beq_iff_eq] at unmoved
      exact Option.some.inj unmoved
  | retreated _ ih =>
      obtain ⟨steps, underway, continues⟩ := ih
      obtain ⟨later, still, further⟩ := underway.retreat
      refine ⟨later, still, fun unmoved => ?_⟩
      rw [Bool.and_eq_true, stepIndex?_eq still.running, stepIndex?_eq underway.running,
        beq_iff_eq] at unmoved
      obtain ⟨id, c⟩ := continues unmoved.1
      exact ⟨id, further id c (Option.some.inj unmoved.2)⟩

/-! ## A form in steps, for instance -/

/-- The form about a pet, in two steps. -/
def petSteps : Schema where
  title := "Pet"
  body := .stepped
    [{ title := "Pet", fields := [{ name := "pet" }] }, { title := "Name", fields := [petName] }]

theorem petSteps_looksBack : petSteps.LooksBack where
  stepped := rfl
  distinct := by decide
  back := by
    intro k step listed field member c asks name reads
    refine ⟨0, Nat.zero_le k, _, rfl, ?_⟩
    match k, listed with
    | 0, rfl =>
        cases List.mem_singleton.mp member
        cases asks
    | 1, rfl =>
        cases List.mem_singleton.mp member
        cases asks
        exact reads

def petBegun : Workspace := (act (.begin "pet" .accepted) { schemas := [("pet", petSteps)] }).2

def petFirst : Workspace := (act .openStep petBegun).2

def petAnswered : Workspace := (act (.sessionSet "pet" (.str "yes")) petFirst).2

def petSecond : Workspace := (act .openStep (act .submitStep petAnswered).2).2

def petCompleted : Workspace :=
  (act .submitStep (act (.sessionSet "petName" (.str "Rex")) petSecond).2).2

theorem petCompleted_stepping : Stepping petSteps [] true petCompleted := by
  have begun : Stepping petSteps [] false petBegun := by
    have ran : act (.begin "pet" .accepted) { schemas := [("pet", petSteps)] } =
        (.ok .done, petBegun) := rfl
    exact .began (.unscripted rfl rfl) rfl rfl rfl ran
  have first : Stepping petSteps [] true petFirst := begun.opened
  have answered : Stepping petSteps [] true petAnswered :=
    first.set (by decide +kernel) ⟨trivial, rfl⟩
  have second : Stepping petSteps [] true petSecond := by
    have opens : (act .openStep (act .submitStep petAnswered).2).1.isOk = true := by
      decide +kernel
    have opened := answered.submitted.opened
    rwa [opens, Bool.or_true] at opened
  have named : Stepping petSteps [] true (act (.sessionSet "petName" (.str "Rex")) petSecond).2 :=
    second.set (by decide +kernel) ⟨trivial, rfl⟩
  have unmoved : (petCompleted.stepIndex? ==
      (act (.sessionSet "petName" (.str "Rex")) petSecond).2.stepIndex?) = true := by
    decide +kernel
  exact unmoved ▸ named.submitted

/-- Whatever was submitted while the form was filled in step by step answers all its fields, and
    so does what a completed form holds. -/
theorem Stepping.completion_answered (stepping : Stepping schema before current w)
    (looksBack : schema.LooksBack) :
    (∀ steps, w.run = some steps → steps.sequence.completed = true →
      schema.Answered w.options.fieldTypes steps.sequence.data) ∧
    ∀ new, w.events = before ++ new → ∀ data, .submitted data ∈ new →
      schema.Answered w.options.fieldTypes data := by
  obtain ⟨steps, underway, -⟩ := stepping.underway looksBack
  refine ⟨fun found running ended => ?_, fun new since data member => ?_⟩
  · rw [underway.running] at running
    cases running
    have answered := underway.answers.completed ended
    rw [underway.isOf] at answered
    exact answered
  · obtain ⟨added, same, submitted⟩ := underway.events
    rw [same] at since
    cases List.append_cancel_left since
    exact submitted data member

theorem petCompleted_completion_answered :
    petCompleted.run.map (fun steps => (steps.sequence.completed, steps.sequence.data.names)) =
        some (true, ["pet", "petName"]) ∧
      petCompleted.events.length = 1 ∧
      (∀ steps, petCompleted.run = some steps → steps.sequence.completed = true →
        petSteps.Answered petCompleted.options.fieldTypes steps.sequence.data) ∧
      ∀ data, .submitted data ∈ petCompleted.events →
        petSteps.Answered petCompleted.options.fieldTypes data := by
  have answered := petCompleted_stepping.completion_answered petSteps_looksBack
  exact ⟨by decide +kernel, by decide +kernel, answered.1, answered.2 _ (List.nil_append _).symm⟩

end Formwork.Workspace
