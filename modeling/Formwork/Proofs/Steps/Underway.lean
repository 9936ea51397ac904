import Formwork.Proofs.Session.Submission
import Formwork.Proofs.Steps.Sequence

/-! # Steps that are under way

While a form is filled in step by step, the merged data answers the steps that were left, and the
session of the current step holds the merged data but for the fields of that step. Submitting the
session hands in data that answers the step, so both still hold after the next step is reached,
after going back, and when the form is completed.
-/

namespace Formwork

/-- Data answers all fields of a form in steps. -/
def Schema.Answered (schema : Schema) (types : Entries FieldType) (data : Entries Value) : Prop :=
  ∀ step ∈ schema.sections, ∀ field ∈ step.fields, field.IsAnswered types data

/-- What is handed to a host on completion. -/
def StepRun.handedIn (run : StepRun) : List Event :=
  if run.sequence.completed = true ∧ run.submission ≠ .ignored then
    [.submitted run.sequence.data]
  else []

theorem StepRun.handedIn_of_unfinished {run : StepRun}
    (unfinished : run.sequence.completed = false) : run.handedIn = [] :=
  if_neg fun submits => Bool.false_ne_true (unfinished.symm.trans submits.1)

namespace Workspace

variable {w w' : Workspace} {steps : StepRun} {id : Nat} {schema : Schema} {before : List Event}

/-- A sequence of steps of a schema is under way, and whatever was submitted since certain
    events answers the form. -/
structure Underway (schema : Schema) (before : List Event) (w : Workspace) (steps : StepRun) :
    Prop where
  records : w.Records
  batches : w.batches = []
  running : w.run = some steps
  isOf : steps.sequence.schema = schema
  answers : steps.sequence.Answers w.options.fieldTypes
  events : ∃ new, w.events = before ++ new ∧ ∀ data, .submitted data ∈ new →
    schema.Answered w.options.fieldTypes data

/-- The session in use is one of the current step, and agrees with the merged data on all other
    fields. -/
structure Continues (w : Workspace) (steps : StepRun) (id : Nat) : Prop where
  attends : w.Attends id
  outside : (w.storeAt (w.sessionAt id).store).batchDepth = 0
  form : (w.sessionAt id).shared.schema = steps.sequence.current
  settings : (w.sessionAt id).options = w.options
  distinct : (w.valuesOf (w.sessionAt id)).names.Nodup
  agrees : ∀ name, name ∉ steps.sequence.current.fieldNames →
    (w.valuesOf (w.sessionAt id)).get? name = steps.sequence.data.get? name

theorem Underway.adds (h : w.Underway schema before steps) (records : w'.Records)
    (batches : w'.batches = w.batches) (same : w'.run = w.run) (options : w'.options = w.options)
    (events : w.Adds w') : w'.Underway schema before steps := by
  obtain ⟨new, since, submitted⟩ := h.events
  obtain ⟨more, added, silent⟩ := events
  refine ⟨records, batches.trans h.batches, same.trans h.running, h.isOf, options ▸ h.answers,
    new ++ more, by rw [added, since, List.append_assoc], ?_⟩
  intro data member
  rw [options]
  rcases List.mem_append.mp member with early | late
  · exact submitted data early
  · exact absurd late (silent data)

theorem Underway.sameButForms (h : w.Underway schema before steps) (same : w.SameButForms w') :
    w'.Underway schema before steps :=
  h.adds same.records same.batches same.run same.options same.events

theorem begin_eq {key : String} {submission : Submission} {result : Result}
    (found : w.schemas.get? key = some schema)
    (ran : act (.begin key submission) w = (.ok result, w')) :
    w' = { w with
      run := some { key, submission, sequence := { schema, startedAt := w.now } } } := by
  rw [act, Effect.get_bind, perform, Effect.get_bind] at ran
  obtain ⟨_, after, ran, h⟩ := Effect.ok_of_bind ran
  cases h
  obtain ⟨shared, _, looked, ran⟩ := Effect.ok_of_bind ran
  obtain ⟨same, rfl⟩ := sharedSchema_ok looked
  rw [found] at same
  cases same
  cases ran
  rfl

/-! ## What the session of a step holds -/

theorem Continues.conditional (h : w.Continues steps id) :
    (w.formOf (w.sessionAt id)).tracker.conditions.names ⊆ steps.sequence.current.fieldNames := by
  intro name conditional
  rw [h.attends.serves.conditions] at conditional
  rw [← h.form]
  exact Conditions.declared_of_mem_ofFields conditional

theorem Continues.write (h : w.Continues steps id) {values : Entries Value}
    (plain : ∀ entry ∈ values, entry.2.Plain)
    (own : ∀ entry ∈ values, entry.1 ∈ steps.sequence.current.fieldNames)
    (written : w.FormBecomes (w.sessionAt id).store (w.sessionAt id).tracker
      ((w.formOf (w.sessionAt id)).write values) w') : w'.Continues steps id := by
  have steady := Form.write_steady (w.formOf (w.sessionAt id)) values
  have right := h.attends.serves.sound.rightBut
  have attends := h.attends.becomes written steady (h.attends.serves.sound.write plain)
  have same := written.sameButForm.sessionAt id
  obtain ⟨cleared, within, loses⟩ := Form.write_loses right.distinct right.fits values
  have holds : w'.valuesOf (w'.sessionAt id) =
      ((w.valuesOf (w.sessionAt id)).putAll values).dropAll cleared := by
    rw [same, valuesOf, written.storeAt]
    exact loses
  refine ⟨attends, ?_, ?_, ?_, ?_, ?_⟩
  · rw [same, written.storeAt, steady.batchDepth]
    exact h.outside
  · rw [same]
    exact h.form
  · rw [same, written.sameButForm.options]
    exact h.settings
  · rw [holds]
    exact Entries.nodup_filter (Entries.nodup_putAll h.distinct values) _
  · intro name foreign
    have kept : name ∉ cleared := fun gone => foreign (h.conditional (within gone))
    have unwritten : name ∉ values.names := by
      intro given
      obtain ⟨entry, member, rfl⟩ := List.mem_map.mp given
      exact foreign (own entry member)
    rw [holds, Entries.get?_dropAll, if_neg kept, Entries.get?_putAll_of_not_mem unwritten]
    exact h.agrees name foreign

/-- What else becomes of the workspace and the sequence does not matter to the session. -/
theorem Continues.of_same (h : w.Continues steps id) {later : StepRun}
    (current : later.sequence.current = steps.sequence.current)
    (data : ∀ name, name ∉ steps.sequence.current.fieldNames →
      later.sequence.data.get? name = steps.sequence.data.get? name)
    (stores : w'.stores = w.stores) (trackers : w'.trackers = w.trackers)
    (sessions : w'.sessions = w.sessions) (session : w'.session = w.session)
    (store : w'.store = w.store) (batches : w'.batches = w.batches)
    (options : w'.options = w.options) (records : w'.Records) : w'.Continues later id := by
  have same : w'.sessionAt id = w.sessionAt id := by rw [sessionAt, sessionAt, sessions]
  have values : w'.valuesOf (w.sessionAt id) = w.valuesOf (w.sessionAt id) := by
    rw [valuesOf, valuesOf, storeAt, storeAt, stores]
  refine ⟨h.attends.of_same stores trackers sessions session store batches records,
    ?_, ?_, ?_, ?_, ?_⟩ <;> rw [same]
  · rw [storeAt, stores]
    exact h.outside
  · exact h.form.trans current.symm
  · rw [options]
    exact h.settings
  · rw [values]
    exact h.distinct
  · intro name foreign
    rw [current] at foreign
    rw [values, data name foreign]
    exact h.agrees name foreign

theorem Continues.notes (h : w.Continues steps id) (notes : w.Notes w') :
    w'.Continues steps id :=
  h.of_same rfl (fun _ _ => rfl) notes.stores notes.trackers notes.sessions notes.session
    notes.store notes.batches notes.options notes.records

/-- Fields of other steps are shown, so the payload holds what all values hold. -/
theorem Continues.payload_agrees (h : w.Continues steps id) {name : String}
    (foreign : name ∉ steps.sequence.current.fieldNames) :
    (payload w (w.sessionAt id)).get? name = steps.sequence.data.get? name := by
  rw [← h.agrees name foreign]
  refine ((w.formOf (w.sessionAt id)).get?_payload name).trans ?_
  split
  · rfl
  next hidden =>
    rw [Bool.not_eq_true, Form.not_isShown_iff] at hidden
    have fits := h.attends.serves.sound.rightBut.fits
    exact absurd (h.conditional (fits.conditional hidden)) foreign

/-! ## Opening a session for a step -/

theorem currentRun_apply (running : w.run = some steps) : currentRun w = (.ok steps, w) := by
  rw [currentRun, Effect.get_bind, running]
  rfl

theorem openStep_apply (running : w.run = some steps) (hooks : Hooks) :
    Workspace.openStep hooks w =
      openSession hooks steps.current w.options steps.sequence.data w := by
  rw [Workspace.openStep, Effect.bind_of_ok (currentRun_apply running), Effect.get_bind]

theorem openStep_ok (running : w.run = some steps) {result : Result}
    (h : act .openStep w = (.ok result, w')) :
    ∃ session after, openSession (callbacks w.depthLimit) steps.current w.options
        steps.sequence.data w = (.ok session, after) ∧ w' = after.adopt "s" session := by
  rw [act, Effect.get_bind, perform] at h
  obtain ⟨session, after, ran, adopted⟩ := Effect.ok_of_bind h
  rw [openStep_apply running] at ran
  cases adopted
  exact ⟨session, after, ran, rfl⟩

theorem openStep_error (running : w.run = some steps) {fault : Fault}
    (h : act .openStep w = (.error fault, w')) :
    openSession (callbacks w.depthLimit) steps.current w.options steps.sequence.data w =
      (.error fault, w') := by
  have run := openStep_apply running (callbacks w.depthLimit)
  rw [act, Effect.get_bind, perform] at h
  rcases ran : openSession (callbacks w.depthLimit) steps.current w.options steps.sequence.data w
    with ⟨refused | session, after⟩
  · rw [Effect.bind_of_error (run.trans ran)] at h
    cases h
    rfl
  · rw [Effect.bind_of_ok (run.trans ran)] at h
    cases h

theorem Underway.ready (h : w.Underway schema before steps) :
    (w.prepare steps.sequence.data).Ready w.stores.fresh :=
  .prepare h.records h.batches h.answers.plain

/-- If no session opens the steps are still under way, and there was no session of the current
    step, since its rules do not compile. -/
theorem Underway.refused (h : w.Underway schema before steps) {fault : Fault}
    (ran : act .openStep w = (.error fault, w')) :
    w'.Underway schema before steps ∧ ∀ id, ¬ w.Continues steps id := by
  obtain ⟨never, notes⟩ := openSession_error _ h.ready (openStep_error h.running ran)
  have prepared := h.records.prepare steps.sequence.data
  refine ⟨h.sameButForms (prepared.trans notes.sameButForms), fun id continues => ?_⟩
  have compiled := continues.attends.compiled
  rw [continues.settings, continues.form] at compiled
  exact never _ compiled

theorem Underway.openStep (h : w.Underway schema before steps) {result : Result}
    (ran : act .openStep w = (.ok result, w')) :
    w'.Underway schema before steps ∧ ∃ id, w'.Continues steps id := by
  obtain ⟨session, after, opening, rfl⟩ := openStep_ok h.running ran
  have opened := openSession_ok _ h.ready opening
  have attends := opened.adopt h.ready "s"
  have same := opened.becomes.sameButForm
  have is : (after.adopt "s" session).sessionAt after.sessions.fresh = session :=
    sessionAt_putSession after _ session
  obtain ⟨cleared, within, loses⟩ := Form.begin_loses w.stores.fresh
    ((w.prepare steps.sequence.data).storeAt w.stores.fresh) steps.current.schema.fields
  have values : (after.adopt "s" session).valuesOf session =
      steps.sequence.data.dropAll cleared := by
    rw [valuesOf, opened.store]
    show (after.storeAt w.stores.fresh).values = _
    rw [opened.becomes.storeAt]
    refine loses.trans ?_
    rw [storeAt_prepare]
  have none : (after.adopt "s" session).batches = [] := same.batches.trans h.batches
  refine ⟨h.adds attends.listens.records same.batches same.run same.options same.events, _,
    attends, ?_, ?_, ?_, ?_, ?_⟩
  · have count := congrArg List.length (attends.batches.symm.trans none)
    rw [List.length_replicate] at count
    exact count
  · rw [is, opened.schema]
    rfl
  · rw [is, opened.settings]
    exact same.options.symm
  · rw [is, values]
    exact Entries.nodup_filter h.answers.distinct _
  · intro name foreign
    have kept : name ∉ cleared := fun gone =>
      foreign (Conditions.declared_of_mem_ofFields (within gone))
    rw [is, values, Entries.get?_dropAll, if_neg kept]

/-! ## Handing in -/

def moveTo (w : Workspace) (steps : StepRun) (next : StepSequence) : Workspace :=
  { w with run := some { steps with sequence := next }
           notices := w.notices ++ [next.advanceNotice] }

theorem advance_none (running : w.run = some steps) {data : Entries Value}
    (stays : steps.sequence.advance? data = none) : (advance data w).2 = w := by
  rw [advance, Effect.bind_of_ok (currentRun_apply running), stays]
  rfl

/-- Handing in data moves the sequence, and submits what is merged where that completes it. -/
theorem advance_some (running : w.run = some steps) {data : Entries Value} {next : StepSequence}
    (moved : steps.sequence.advance? data = some next) :
    (advance data w).2 = { w.moveTo steps next with
      events := w.events ++ StepRun.handedIn { steps with sequence := next } } := by
  have found : Effect.orFault .completed (steps.sequence.advance? data) w = (.ok next, w) := by
    rw [moved]
    rfl
  rw [advance, Effect.bind_of_ok (currentRun_apply running), Effect.bind_of_ok found,
    Effect.modify_bind, Effect.modify_bind]
  obtain ⟨key, submission, sequence⟩ := steps
  cases ended : next.completed with
  | false =>
      have quiet : StepRun.handedIn { key, submission, sequence := next } = [] :=
        StepRun.handedIn_of_unfinished ended
      rw [quiet, List.append_nil]
      rfl
  | true =>
      cases submission with
      | ignored =>
          have quiet : StepRun.handedIn { key, submission := .ignored, sequence := next } = [] :=
            if_neg fun submits => submits.2 rfl
          rw [quiet, List.append_nil]
          rfl
      | accepted =>
          have told : StepRun.handedIn { key, submission := .accepted, sequence := next } =
              [.submitted next.data] := if_pos ⟨ended, nofun⟩
          rw [told]
          rfl
      | failing fault =>
          have told : StepRun.handedIn { key, submission := .failing fault, sequence := next } =
              [.submitted next.data] := if_pos ⟨ended, nofun⟩
          rw [told]
          rfl

/-- Handing in data fails where the form was completed, else the sequence moves, and completed it
    may be submitted. -/
theorem advance_cases (running : w.run = some steps) (data : Entries Value) :
    (steps.sequence.advance? data = none ∧ (advance data w).2 = w) ∨
    ∃ next, steps.sequence.advance? data = some next ∧
      ((advance data w).2 = w.moveTo steps next ∨ next.completed = true ∧
        (advance data w).2 = (w.moveTo steps next).addEvent (.submitted next.data)) := by
  cases moved : steps.sequence.advance? data with
  | none => exact .inl ⟨rfl, advance_none running moved⟩
  | some next =>
      refine .inr ⟨next, rfl, ?_⟩
      rw [advance_some running moved, StepRun.handedIn]
      split
      next submits => exact .inr ⟨submits.1, rfl⟩
      next =>
        rw [List.append_nil]
        exact .inl rfl

/-- Submitting a session leaves notes and, if nothing was found wanting, hands in its payload,
    whatever the current step is. -/
theorem submitStep_hands (records : w.Records) (session : Session) : ∃ between, w.Notes between ∧
    ((submitStep session w).2 = between ∨
      (session.rules.validate (w.valuesOf session) (some (w.visibilityOf session))).isClean = true ∧
      (submitStep session w).2 = (advance (payload w session) between).2) := by
  obtain ⟨⟨outcome, handed⟩, between, ran, notes, payload⟩ := submit_notes records session
  rw [submitStep, Effect.bind_of_ok ran]
  cases handed with
  | none => exact ⟨between, notes, .inl rfl⟩
  | some data =>
      obtain ⟨rfl, clean⟩ := payload data rfl
      refine ⟨between, notes, .inr ⟨clean, ?_⟩⟩
      show ((discard (advance _) >>= fun _ => pure outcome) between).2 = _
      rw [Effect.snd_bind_pure, Effect.discard_eq, Effect.snd_bind_pure]

theorem submitStep_cases (attends : w.Attends id) : ∃ between, w.Notes between ∧
    ((act .submitStep w).2 = between ∨
      ((w.sessionAt id).rules.validate (w.valuesOf (w.sessionAt id))
        (some (w.visibilityOf (w.sessionAt id)))).isClean = true ∧
      (act .submitStep w).2 = (advance (payload w (w.sessionAt id)) between).2) := by
  have run : (act .submitStep w).2 = (submitStep (w.sessionAt id) w).2 := by
    rw [act, Effect.get_bind, perform, Effect.bind_of_ok (currentSession_apply attends.used),
      Effect.snd_bind_pure]
  rw [run]
  exact submitStep_hands attends.listens.records (w.sessionAt id)

/-- The payload of a session of the current step, in which nothing was found wanting, moves the
    sequence on. -/
theorem Underway.moves (h : w.Underway schema before steps) (c : w.Continues steps id)
    (looksBack : schema.LooksBack)
    (clean : ((w.sessionAt id).rules.validate (w.valuesOf (w.sessionAt id))
      (some (w.visibilityOf (w.sessionAt id)))).isClean = true) {next : StepSequence}
    (moved : steps.sequence.advance? (payload w (w.sessionAt id)) = some next) :
    next.Answers w.options.fieldTypes ∧ next.schema = schema ∧
      ∀ name, name ∉ steps.sequence.current.fieldNames →
        next.data.get? name = steps.sequence.data.get? name := by
  have isOf := h.isOf
  subst isOf
  obtain ⟨step, here⟩ : ∃ step,
      steps.sequence.schema.sections[steps.sequence.index]? = some step :=
    ⟨_, List.getElem?_eq_getElem h.answers.within⟩
  have current := StepSequence.current_eq looksBack.stepped here
  have names := Schema.ofSection_fieldNames steps.sequence.schema step
  rw [← current] at names
  have own : ∀ field ∈ step.fields,
      field.IsAnswered w.options.fieldTypes (payload w (w.sessionAt id)) := by
    -- the session was opened for this step alone, so its rules speak of all these fields
    intro field member
    have declared : (w.sessionAt id).shared.schema.field? field.name = some field := by
      have found := Field.last?_of_mem (looksBack.nodup_names here) member
      rw [← Schema.ofSection_fields steps.sequence.schema, ← current, ← c.form] at found
      exact found
    rw [← c.settings]
    exact c.attends.payload_answered c.outside clean declared
  have plain : ∀ name value, (payload w (w.sessionAt id)).get? name = some value →
      value.Plain := by
    intro name value found
    have reads := ((w.formOf (w.sessionAt id)).get?_payload name).symm.trans found
    split at reads
    · exact c.attends.serves.sound.plain name value reads
    · cases reads
  obtain ⟨answers, same, reads⟩ := h.answers.advance looksBack here
    (Entries.nodup_filter c.distinct _) plain
    (fun name foreign => c.payload_agrees (names ▸ foreign)) own moved
  exact ⟨answers, same, fun name foreign => (reads name).trans (c.payload_agrees foreign)⟩

theorem Underway.moveTo (h : w.Underway schema before steps) {next : StepSequence}
    (answers : next.Answers w.options.fieldTypes) (isOf : next.schema = schema) :
    (w.moveTo steps next).Underway schema before { steps with sequence := next } where
  records := ⟨h.records.scripts, h.records.watchScripts⟩
  batches := h.batches
  running := rfl
  isOf := isOf
  answers := answers
  events := h.events

theorem Underway.addEvent (h : w.Underway schema before steps) {data : Entries Value}
    (answered : schema.Answered w.options.fieldTypes data) :
    (w.addEvent (.submitted data)).Underway schema before steps := by
  obtain ⟨new, since, submitted⟩ := h.events
  refine ⟨⟨h.records.scripts, h.records.watchScripts⟩, h.batches, h.running, h.isOf, h.answers,
    new ++ [.submitted data], ?_, ?_⟩
  · rw [← List.append_assoc, ← since]
    rfl
  · intro other member
    rcases List.mem_append.mp member with early | late
    · exact submitted other early
    · cases List.mem_singleton.mp late
      exact answered

/-- Submitting the session of a step keeps what holds of the steps, and what holds of the session
    as long as the index does not move. -/
theorem Underway.submitStep (h : w.Underway schema before steps) (c : w.Continues steps id)
    (looksBack : schema.LooksBack) :
    ∃ later, (act .submitStep w).2.Underway schema before later ∧
      (later.sequence.index = steps.sequence.index →
        (act .submitStep w).2.Continues later id) := by
  obtain ⟨between, notes, same | ⟨clean, handed⟩⟩ := submitStep_cases c.attends
  · rw [same]
    exact ⟨steps, h.sameButForms notes.sameButForms, fun _ => c.notes notes⟩
  · -- validating leaves notes only, so the steps still are where the payload was validated
    have still := h.sameButForms notes.sameButForms
    rw [handed]
    rcases advance_cases still.running (payload w (w.sessionAt id)) with
      ⟨-, same⟩ | ⟨next, moved, result⟩
    · rw [same]
      exact ⟨steps, still, fun _ => c.notes notes⟩
    · obtain ⟨answers, isOf, data⟩ := h.moves c looksBack clean moved
      rw [← notes.options] at answers
      have onward := still.moveTo answers isOf
      have stays (index : next.index = steps.sequence.index) :
          (between.moveTo steps next).Continues { steps with sequence := next } id :=
        (c.notes notes).of_same
          (StepSequence.current_congr (isOf.trans h.isOf.symm) index) data
          rfl rfl rfl rfl rfl rfl rfl onward.records
      rcases result with same | ⟨ended, same⟩
      · rw [same]
        exact ⟨_, onward, stays⟩
      · rw [same]
        have answered : schema.Answered between.options.fieldTypes next.data := by
          have all := answers.completed ended
          rw [isOf] at all
          exact all
        have submitted := onward.addEvent answered
        exact ⟨_, submitted, fun index => (stays index).of_same rfl (fun _ _ => rfl)
          rfl rfl rfl rfl rfl rfl rfl submitted.records⟩

/-! ## Going back -/

theorem retreat_some (running : w.run = some steps) {next : StepSequence}
    (back : steps.sequence.retreat? = some next) :
    retreat w = (.ok (), { w with
      run := some { steps with sequence := next }
      notices := w.notices ++ steps.sequence.retreatNotices }) := by
  rw [retreat, Effect.bind_of_ok (currentRun_apply running), back]
  rfl

theorem retreat_cases (running : w.run = some steps) :
    (steps.sequence.retreat? = none ∧ (act .retreat w).2 = w) ∨
    ∃ next, steps.sequence.retreat? = some next ∧
      (act .retreat w).2 =
        { w with run := some { steps with sequence := next }
                 notices := w.notices ++ steps.sequence.retreatNotices } := by
  have run : (act .retreat w).2 = (retreat w).2 := by
    rw [act, Effect.get_bind, perform, Effect.snd_bind_pure]
  rw [run]
  cases back : steps.sequence.retreat? with
  | none =>
      rw [retreat, Effect.bind_of_ok (currentRun_apply running), back]
      exact .inl ⟨rfl, rfl⟩
  | some next =>
      rw [retreat_some running back]
      exact .inr ⟨next, rfl, rfl⟩

/-- Going back keeps what holds of the steps, and what holds of the session as long as the index
    does not move. -/
theorem Underway.retreat (h : w.Underway schema before steps) :
    ∃ later, (act .retreat w).2.Underway schema before later ∧
      ∀ id, w.Continues steps id → later.sequence.index = steps.sequence.index →
        (act .retreat w).2.Continues later id := by
  rcases retreat_cases h.running with ⟨-, same⟩ | ⟨next, back, same⟩
  · rw [same]
    exact ⟨steps, h, fun _ continues _ => continues⟩
  · obtain ⟨answers, isOf⟩ := h.answers.retreat back
    have records : (act .retreat w).2.Records := by
      rw [same]
      exact ⟨h.records.scripts, h.records.watchScripts⟩
    rw [same] at records ⊢
    refine ⟨_, ⟨records, h.batches, rfl, isOf.trans h.isOf, answers, h.events⟩,
      fun id continues index => ?_⟩
    have data : next.data = steps.sequence.data := by
      obtain ⟨-, rfl⟩ := StepSequence.retreat?_cases back
      rfl
    exact continues.of_same (StepSequence.current_congr isOf index) (fun _ _ => by rw [data])
      rfl rfl rfl rfl rfl rfl rfl records

end Workspace

end Formwork
