import Formwork.Proofs.Form.Agreement
import Formwork.Proofs.Session.Initial
import Formwork.Proofs.Session.Waiting
import Formwork.Proofs.Steps.Visits

/-! # Going back to a step

The payload of a step is merged into the data of all steps, and a session that opens when the
steps have gone back begins with that data. Nothing of what was submitted is lost on the way and
nothing comes back that was not: what the step declares and the payload does not have is dropped
from the data, and the payload has a value for every other name that the data has one for.
-/

namespace Formwork

namespace Workspace

variable {w w' : Workspace} {steps : StepRun} {session : Session}

/-- The workspaces in which a session is being filled in that was opened for the current step of
    a sequence. -/
inductive Editing (steps : StepRun) (session : Session) : Workspace → Prop where
  | opened {w w' : Workspace} (records : w.Records) (running : w.run = some steps)
      (distinct : steps.sequence.data.names.Nodup)
      (plain : ∀ name value, steps.sequence.data.get? name = some value → value.Plain)
      (ran : openStep (callbacks w.depthLimit) w = (.ok session, w')) : Editing steps session w'
  | wrote {w : Workspace} {values : Entries Value} (editing : Editing steps session w)
      (plain : ∀ entry ∈ values, entry.2.Plain) :
      Editing steps session (setValues (callbacks w.depthLimit) session.store values w).2
  /-- Whatever else is done, to other stores, other sessions or the steps. -/
  | other {w w' : Workspace} (editing : Editing steps session w) (records : w'.Records)
      (options : w'.options = w.options)
      (form : w'.formOf session = w.formOf session) : Editing steps session w'

/-- What holds of a session while it is being filled in. -/
structure Edited (steps : StepRun) (session : Session) (w : Workspace) : Prop where
  listens : w.Listens session.store session.tracker
  serves : (w.formOf session).Serves steps.sequence.current
  outside : (w.formOf session).store.batchDepth = 0
  compiled : Ruleset.compile w.options steps.sequence.current = .ok session.rules
  names : (w.visibilityOf session).names =
    (Visibility.all steps.sequence.current.fields).names
  merged : steps.sequence.data.names.Nodup
  distinct : (w.valuesOf session).names.Nodup
  keeps : ∀ name, name ∉ steps.sequence.current.fieldNames →
    (w.valuesOf session).get? name = none → steps.sequence.data.get? name = none

theorem Edited.conditional (h : Edited steps session w) :
    (w.formOf session).tracker.conditions.names ⊆ steps.sequence.current.fieldNames := by
  rw [h.serves.conditions]
  exact fun _ conditional => Conditions.declared_of_mem_ofFields conditional

theorem edited_opened (records : w.Records) (running : w.run = some steps)
    (distinct : steps.sequence.data.names.Nodup)
    (plain : ∀ name value, steps.sequence.data.get? name = some value → value.Plain)
    (ran : openStep (callbacks w.depthLimit) w = (.ok session, w')) :
    Edited steps session w' := by
  rw [openStep_apply running] at ran
  obtain ⟨-, compiles⟩ := openSession_compiles ran
  have opened := (openSession_opened _ records compiles _).of_eq ran
  have form : w'.formOf session = (Form.begin w.stores.fresh { values := steps.sequence.data }
      steps.sequence.current.fields).start session.tracker := by
    rw [formOf, opened.store, opened.becomes.form, storeAt_prepare]
    rfl
  have serves : (Form.begin w.stores.fresh { values := steps.sequence.data }
      steps.sequence.current.fields).Serves steps.sequence.current :=
    Form.begin_serves _ _ (fun _ => rfl) plain
  obtain ⟨cleared, within, loses⟩ := Form.begin_loses w.stores.fresh
    { values := steps.sequence.data } steps.sequence.current.fields
  have values : w'.valuesOf session = steps.sequence.data.dropAll cleared :=
    (congrArg (·.store.values) form).trans loses
  refine ⟨opened.store.symm ▸ opened.listens, ?_, ?_, ?_, ?_, distinct, ?_, ?_⟩
  · rw [form]
    exact serves.start session.tracker
  · rw [form]
    exact (Form.begin_steady _ _ _).batchDepth
  · rw [opened.becomes.sameButForm.options]
    exact compiles
  · rw [show w'.visibilityOf session = _ from congrArg (·.tracker.map) form]
    exact Cycle.names_settle (Visibility.fits_all _) (Conditions.nodup_ofFields _)
  · rw [values]
    exact Entries.nodup_filter distinct _
  · intro name foreign absent
    have kept : name ∉ cleared := fun gone =>
      foreign (Conditions.declared_of_mem_ofFields (within gone))
    rwa [values, Entries.get?_dropAll, if_neg kept] at absent

theorem Edited.write (h : Edited steps session w) {values : Entries Value}
    (plain : ∀ entry ∈ values, entry.2.Plain)
    (wrote : w.FormBecomes session.store session.tracker ((w.formOf session).write values) w') :
    Edited steps session w' := by
  have right := h.serves.sound.rightBut
  have steady := Form.write_steady (w.formOf session) values
  have form : w'.formOf session = (w.formOf session).write values := wrote.form
  obtain ⟨cleared, within, loses⟩ := Form.write_loses right.distinct right.fits values
  have holds : w'.valuesOf session = ((w.valuesOf session).putAll values).dropAll cleared :=
    (congrArg (·.store.values) form).trans loses
  refine ⟨h.listens.becomes wrote steady, ?_, ?_, ?_, ?_, h.merged, ?_, ?_⟩
  · rw [form]
    have counted : ((w.formOf session).counting (w.formOf session).store.batchDepth).Steady
        ((w.formOf session).write values) := steady
    exact h.serves.later counted (h.serves.sound.write plain)
  · rw [form, steady.batchDepth]
    exact h.outside
  · rw [wrote.sameButForm.options]
    exact h.compiled
  · rw [show w'.visibilityOf session = _ from congrArg (·.tracker.map) form]
    exact (Form.write_names right.distinct right.fits values).trans h.names
  · rw [holds]
    exact Entries.nodup_filter (Entries.nodup_putAll h.distinct values) _
  · intro name foreign absent
    have kept : name ∉ cleared := fun gone => foreign (h.conditional (within gone))
    rw [holds, Entries.get?_dropAll, if_neg kept, Entries.get?_putAll,
      Option.or_eq_none_iff] at absent
    exact h.keeps name foreign absent.2

theorem Edited.of_form (h : Edited steps session w) (records : w'.Records)
    (options : w'.options = w.options) (form : w'.formOf session = w.formOf session) :
    Edited steps session w' := by
  have tracker : w'.trackerAt session.tracker = w.trackerAt session.tracker :=
    congrArg Form.tracker form
  have store : w'.storeAt session.store = w.storeAt session.store := congrArg Form.store form
  obtain ⟨⟨-, follows, quiet, only⟩, listening⟩ := h.listens
  refine ⟨⟨⟨records, ?_, ?_, ?_⟩, ?_⟩, ?_, ?_, ?_, ?_, h.merged, ?_, ?_⟩
  · rwa [tracker]
  · rwa [tracker]
  · rwa [store]
  · rwa [store]
  · rw [form]
    exact h.serves
  · rw [form]
    exact h.outside
  · rw [options]
    exact h.compiled
  · rw [visibilityOf, tracker]
    exact h.names
  · rw [valuesOf, store]
    exact h.distinct
  · rw [valuesOf, store]
    exact h.keeps

theorem Editing.edited (editing : Editing steps session w) : Edited steps session w := by
  induction editing with
  | opened records running distinct plain ran =>
      exact edited_opened records running distinct plain ran
  | @wrote w values _ plain ih =>
      exact Effect.Yields.snd ((setValues_form (w.trackers.length + 998) ih.listens values).mono
        fun _ _ wrote => ih.write plain wrote.toFormBecomes)
  | other _ records options form ih => exact ih.of_form records options form

/-! ## The payload in the merged data -/

theorem Edited.distinct_payload (h : Edited steps session w) :
    (payload w session).names.Nodup :=
  Entries.nodup_filter h.distinct _

/-- The merged data is what was submitted: no name of the step has a value left that was not. -/
theorem Edited.get?_merge (h : Edited steps session w) (name : String) :
    (steps.sequence.merge (payload w session)).get? name = (payload w session).get? name := by
  rw [StepSequence.get?_merge_eq h.distinct_payload]
  split
  · exact Option.or_none
  next foreign =>
    cases submitted : (payload w session).get? name with
    | some value => rfl
    | none =>
        have fits := h.serves.sound.rightBut.fits
        have shown : isShown (some (w.formOf session).tracker.map) name = true := by
          rw [← Bool.not_eq_false, Form.not_isShown_iff]
          exact fun hidden => foreign (h.conditional (fits.conditional hidden))
        have absent : (w.valuesOf session).get? name = none := by
          have reads := (w.formOf session).get?_payload name
          rw [if_pos shown] at reads
          exact reads.symm.trans submitted
        rw [h.keeps name foreign absent]
        rfl

theorem submitStep_valid (records : w.Records) (running : w.run = some steps)
    {outcome : Outcome} (ran : submitStep session w = (.ok outcome, w'))
    (valid : outcome.valid = true) : ∃ next,
      steps.sequence.advance? (payload w session) = some next ∧
      w'.run = some { steps with sequence := next } ∧ w'.options = w.options ∧ w'.Records := by
  have submits : Effect.Yields (submit session w) fun answer after => w.Notes after ∧
      (answer.1.valid = true → answer.2 = some (payload w session)) := by
    rw [← submitAround_idle]
    refine (validate_notes records session).bind ?_
    rintro found validated ⟨-, notes⟩
    refine (handOver_notes notes.records session found).mono ?_
    rintro answer after ⟨noted, rfl, handed⟩
    refine ⟨notes.trans noted, fun accepted => ?_⟩
    rw [handed, if_pos accepted, noted.payload, notes.payload]
  obtain ⟨⟨found, handed⟩, between, submitted, ran⟩ := Effect.ok_of_bind ran
  obtain ⟨notes, hands⟩ := submits.of_eq submitted
  have still : between.run = some steps := notes.sameButForms.run.trans running
  cases handed with
  | none =>
      cases ran
      cases hands valid
  | some data =>
      obtain ⟨_, after, advanced, ran⟩ := Effect.ok_of_bind ran
      cases ran
      cases hands valid
      obtain ⟨_, _, advanced, unit⟩ := Effect.ok_of_bind advanced
      cases unit
      cases moved : steps.sequence.advance? (payload w session) with
      | none =>
          rw [advance, Effect.bind_of_ok (currentRun_apply still), moved] at advanced
          cases advanced
      | some next =>
          have onward := advance_some still moved
          rw [advanced] at onward
          cases onward
          exact ⟨next, rfl, rfl, notes.options, notes.records.scripts, notes.records.watchScripts⟩

/-! ## Going back -/

/-- A session that opens for the step again, once the payload is merged, shows the payload. -/
theorem Edited.reopens (h : Edited steps session w) {later : StepRun} (records : w'.Records)
    (options : w'.options = w.options) (running : w'.run = some later)
    (current : later.sequence.current = steps.sequence.current)
    (merged : later.sequence.data = steps.sequence.merge (payload w session)) :
    Effect.Yields (openStep (callbacks w'.depthLimit) w') fun again after =>
      (after.valuesOf again).Perm (payload w session) ∧
        after.visibilityOf again = w.visibilityOf session := by
  have compiles : Ruleset.compile w'.options later.current.schema = .ok session.rules := by
    rw [options, ← h.compiled, ← current]
    rfl
  rw [openStep_apply running]
  refine (openSession_opened _ records compiles _).mono fun again after opened => ?_
  have form : after.formOf again = (Form.begin w'.stores.fresh { values := later.sequence.data }
      steps.sequence.current.fields).start again.tracker := by
    rw [formOf, opened.store, opened.becomes.form, storeAt_prepare, ← current]
    rfl
  have same : ∀ name, ({ values := later.sequence.data } : Store).values.get? name =
      (w.formOf session).payload.get? name := by
    rw [merged]
    exact h.get?_merge
  have distinct : later.sequence.data.names.Nodup := by
    rw [merged]
    exact Entries.nodup_putAll (Entries.nodup_filter h.merged _) _
  obtain ⟨map, values⟩ := h.serves.begin_again h.outside h.names w'.stores.fresh same
  obtain ⟨cleared, -, loses⟩ := Form.begin_loses w'.stores.fresh
    { values := later.sequence.data } steps.sequence.current.fields
  have held : after.valuesOf again = (Form.begin w'.stores.fresh
      { values := later.sequence.data } steps.sequence.current.fields).store.values :=
    congrArg (·.store.values) form
  refine ⟨Entries.perm_of_get? ?_ h.distinct_payload ?_, ?_⟩
  · rw [held, loses]
    exact Entries.nodup_filter distinct _
  · rw [held]
    exact values
  · exact (congrArg (·.tracker.map) form).trans map

/-- Going back from the step after one that was submitted, and opening a session there again,
    shows exactly what was submitted. -/
theorem Editing.returns (editing : Editing steps session w) (running : w.run = some steps)
    (more : steps.sequence.index + 1 < steps.sequence.count) {outcome : Outcome}
    (ran : submitStep session w = (.ok outcome, w')) (valid : outcome.valid = true) :
    Effect.Yields (retreat w') fun _ back =>
      Effect.Yields (openStep (callbacks back.depthLimit) back) fun again after =>
        (after.valuesOf again).Perm (payload w session) ∧
          after.visibilityOf again = w.visibilityOf session := by
  have edited := editing.edited
  obtain ⟨next, advanced, moved, options, records⟩ :=
    submitStep_valid edited.listens.records running ran valid
  obtain ⟨unfinished, ⟨last, -⟩ | ⟨-, rfl⟩⟩ := StepSequence.advance?_cases advanced
  · omega
  -- one step on and one step back: only the data is another one
  have back : StepSequence.retreat? { steps.sequence with
      data := steps.sequence.merge (payload w session), index := steps.sequence.index + 1 } =
      some { steps.sequence with data := steps.sequence.merge (payload w session) } := by
    rw [StepSequence.retreat?, if_neg (by simp [unfinished])]
    rfl
  exact ⟨(), _, retreat_some moved back, edited.reopens ⟨records.scripts, records.watchScripts⟩
    options rfl rfl rfl⟩

/-! ## A pet that is gone, for instance -/

/-- The form about a pet, and a note on a page of its own. -/
def petNoted : Schema where
  title := "Pet"
  body := .stepped
    [{ title := "Pet", fields := petForm.fields },
     { title := "Note", fields := [{ name := "note" }] }]

/-- The first page again, after it was left with the name of a pet. -/
def petNotedRun : StepRun where
  key := "pet"
  submission := .accepted
  sequence :=
    { schema := petNoted
      data := [("pet", .str "yes"), ("petName", .str "Rex"), ("note", .str "shy")]
      startedAt := .zero }

def petReturned : Workspace := { schemas := [("pet", petNoted)], run := some petNotedRun }

def petReturnedPage : Session :=
  (openStep (callbacks petReturned.depthLimit) petReturned).1.toOption.getD default

def petReturnedPaged : Workspace := (openStep (callbacks petReturned.depthLimit) petReturned).2

def petGone : Workspace :=
  (setValues (callbacks petReturnedPaged.depthLimit) petReturnedPage.store [("pet", .str "no")]
    petReturnedPaged).2

theorem petGone_editing : Editing petNotedRun petReturnedPage petGone := by
  have opened : Editing petNotedRun petReturnedPage petReturnedPaged := by
    refine .opened (w := petReturned) (.unscripted rfl rfl) rfl (by decide) ?_ rfl
    intro name value found
    have listed := Entries.mem_of_get? found
    simp only [petNotedRun, List.mem_cons, List.not_mem_nil, or_false, Prod.mk.injEq] at listed
    rcases listed with ⟨-, rfl⟩ | ⟨-, rfl⟩ | ⟨-, rfl⟩ <;> exact ⟨trivial, rfl⟩
  exact opened.wrote fun entry member => List.mem_singleton.mp member ▸ ⟨trivial, rfl⟩

/-- The name went with the pet, and going back does not bring it back. -/
theorem petGone_returns :
    Editing petNotedRun petReturnedPage petGone ∧ petGone.run = some petNotedRun ∧
      petNotedRun.sequence.index + 1 < petNotedRun.sequence.count ∧
      submitStep petReturnedPage petGone =
        (.ok ⟨true, []⟩, (submitStep petReturnedPage petGone).2) ∧
      payload petGone petReturnedPage = [("pet", .str "no"), ("note", .str "shy")] ∧
      Effect.Yields (retreat (submitStep petReturnedPage petGone).2) fun _ back =>
        Effect.Yields (openStep (callbacks back.depthLimit) back) fun again after =>
          (after.valuesOf again).Perm [("pet", .str "no"), ("note", .str "shy")] ∧
            after.visibilityOf again = petGone.visibilityOf petReturnedPage := by
  have ran : submitStep petReturnedPage petGone =
      (.ok ⟨true, []⟩, (submitStep petReturnedPage petGone).2) := rfl
  have shown : payload petGone petReturnedPage = [("pet", .str "no"), ("note", .str "shy")] := rfl
  exact ⟨petGone_editing, rfl, by decide, ran, shown,
    petGone_editing.returns rfl (by decide) ran rfl⟩

end Workspace

end Formwork
