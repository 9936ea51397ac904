import Formwork.Proofs.Session.Attended

/-! # Sessions that open and change their schema

A session opens over a new store, or over one to which no tracker listens, and is attended from
then on. Given another schema it stays attended: the old tracker ceases to listen before the new
one begins.
-/

namespace Formwork.Workspace

variable {w w' : Workspace} {s id : Nat}

/-- No tracker listens to a store yet, and it can be filled in. -/
structure Ready (w : Workspace) (s : Nat) : Prop where
  records : w.Records
  free : (w.storeAt s).trackers = []
  idle : (w.storeAt s).batchDepth = 0 → (w.storeAt s).pending = []
  plain : ∀ name value, (w.storeAt s).values.get? name = some value → value.Plain
  batches : w.batches = List.replicate (w.storeAt s).batchDepth s

theorem Ready.of_same (h : w.Ready s) (stores : w'.stores = w.stores)
    (batches : w'.batches = w.batches) (records : w'.Records) : w'.Ready s := by
  have same : w'.storeAt s = w.storeAt s := by rw [storeAt, storeAt, stores]
  refine ⟨records, ?_, ?_, ?_, ?_⟩ <;> rw [same]
  · exact h.free
  · exact h.idle
  · exact h.plain
  · exact batches.trans h.batches

theorem Ready.putSession (h : w.Ready s) (id : Nat) (session : Session) :
    (w.putSession id session).Ready s :=
  h.of_same rfl rfl ⟨h.records.scripts, h.records.watchScripts⟩

theorem Ready.notes (h : w.Ready s) (notes : w.Notes w') : w'.Ready s :=
  h.of_same notes.stores notes.batches notes.records

/-- A session has been created over a store, with a new form that its tracker listens for. -/
structure Opened (w : Workspace) (shared : SharedSchema) (options : CompileOptions) (s : Nat)
    (session : Session) (w' : Workspace) : Prop where
  schema : session.shared = shared
  settings : session.options = options
  store : session.store = s
  compiled : Ruleset.compile session.options shared.schema = .ok session.rules
  becomes : w.FormBecomes s session.tracker
    ((Form.begin s (w.storeAt s) shared.schema.fields).start session.tracker) w'
  listens : w'.Listens s session.tracker

theorem Opened.attends {w'' : Workspace} {shared : SharedSchema} {options : CompileOptions}
    {session : Session} (opened : w.Opened shared options s session w') (ready : w.Ready s)
    (stores : w''.stores = w'.stores)
    (trackers : w''.trackers = w'.trackers) (batches : w''.batches = w'.batches)
    (records : w''.Records) (used : w''.session = some id) (is : w''.sessionAt id = session)
    (current : w''.store = s) : w''.Attends id := by
  have form : w''.formAt s session.tracker =
      (Form.begin s (w.storeAt s) shared.schema.fields).start session.tracker := by
    rw [← opened.becomes.form, formAt, formAt, storeAt, trackerAt, stores, trackers]
    rfl
  have depth : (w''.storeAt s).batchDepth = (w.storeAt s).batchDepth :=
    (congrArg (·.store.batchDepth) form).trans
      (Form.begin_steady s (w.storeAt s) shared.schema.fields).batchDepth
  have serves := (Form.begin_serves s shared.schema ready.idle ready.plain).start
    session.tracker
  refine ⟨used, ?_, ?_, ?_, ?_, ?_, ?_⟩ <;> rw [is]
  · rw [current, opened.store]
  · rw [opened.store]
    exact opened.listens.of_same stores trackers records
  · exact congrArg (·.tracker.isActive) form
  · rw [opened.store, depth]
    exact batches.trans (opened.becomes.sameButForm.batches.trans ready.batches)
  · rw [opened.schema]
    exact opened.compiled
  · rw [opened.schema, formOf, opened.store, form]
    exact serves

/-! ## Creating -/

theorem compileRules_apply (options : CompileOptions) (schema : Schema) (w : Workspace) :
    compileRules options schema w = ((Ruleset.compile options schema).mapError .pattern,
      w.addNotices (Ruleset.compileNotices options schema)) := by
  rw [compileRules, Effect.modify_bind]
  cases Ruleset.compile options schema with
  | error error => rfl
  | ok rules => rfl

theorem compileRules_ok (records : w.Records) {options : CompileOptions} {schema : Schema}
    {rules : Ruleset} (h : compileRules options schema w = (.ok rules, w')) :
    Ruleset.compile options schema = .ok rules ∧ w.Notes w' := by
  rw [compileRules_apply] at h
  cases found : Ruleset.compile options schema with
  | error error =>
      rw [found] at h
      cases h
  | ok compiled =>
      rw [found] at h
      cases h
      exact ⟨rfl, records.addNotices _⟩

variable (depth : Nat) {shared : SharedSchema} {options : CompileOptions} {session : Session}
  {initial : Entries Value}

theorem createSession_ok (records : w.Records) (free : (w.storeAt s).trackers = [])
    (h : createSession (callbacks (depth + 1)) shared options s w = (.ok session, w')) :
    w.Opened shared options s session w' := by
  obtain ⟨rules, compiled, ran, h⟩ := Effect.ok_of_bind h
  obtain ⟨found, notes⟩ := compileRules_ok records ran
  have unchanged := notes.storeAt s
  obtain ⟨tracker, created, made, h⟩ := Effect.ok_of_bind h
  obtain ⟨_, started, ready, h⟩ := Effect.ok_of_bind h
  cases h
  have begun := ((createTracker_start depth notes.records (unchanged ▸ free) _).of_eq made).of_eq
    ready
  rw [unchanged] at begun
  exact ⟨rfl, rfl, rfl, found, ((FormBecomes.refl records).notes notes).trans begun.1, begun.2⟩

/-- A session is not created only where its rules do not compile, and then nothing else has
    happened. -/
theorem createSession_error (records : w.Records) (free : (w.storeAt s).trackers = [])
    {fault : Fault}
    (h : createSession (callbacks (depth + 1)) shared options s w = (.error fault, w')) :
    (∀ rules, Ruleset.compile options shared.schema ≠ .ok rules) ∧ w.Notes w' := by
  have ran := compileRules_apply options shared.schema w
  have notes := records.addNotices (Ruleset.compileNotices options shared.schema)
  cases found : Ruleset.compile options shared.schema with
  | error error =>
      rw [found] at ran
      rw [createSession, Effect.bind_of_error ran] at h
      cases h
      exact ⟨fun _ same => (nomatch same), notes⟩
  | ok rules =>
      rw [found] at ran
      obtain ⟨tracker, created, made, ready⟩ := createTracker_start depth notes.records
        ((notes.storeAt s).symm ▸ free) shared.schema.fields
      obtain ⟨_, started, listening, -⟩ := ready
      rw [createSession, Effect.bind_of_ok ran, Effect.bind_of_ok made,
        Effect.bind_of_ok listening] at h
      cases h

/-- The workspace with a new store that has some values. -/
def prepare (w : Workspace) (initial : Entries Value) : Workspace :=
  w.updateStore w.stores.fresh fun _ => { values := initial }

theorem storeAt_prepare (w : Workspace) (initial : Entries Value) :
    (w.prepare initial).storeAt w.stores.fresh = { values := initial } :=
  storeAt_updateStore w w.stores.fresh fun _ => { values := initial }

theorem Records.prepare (records : w.Records) (initial : Entries Value) :
    w.SameButForms (w.prepare initial) :=
  records.updateStore w.stores.fresh _

theorem Ready.prepare (records : w.Records) (batches : w.batches = [])
    (plain : ∀ name value, initial.get? name = some value → value.Plain) :
    (w.prepare initial).Ready w.stores.fresh := by
  refine ⟨(records.prepare initial).records, ?_, ?_, ?_, ?_⟩ <;> rw [storeAt_prepare]
  · rfl
  · exact fun _ => rfl
  · exact plain
  · exact batches

theorem openSession_ok (ready : (w.prepare initial).Ready w.stores.fresh)
    (h : openSession (callbacks (depth + 1)) shared options initial w = (.ok session, w')) :
    (w.prepare initial).Opened shared options w.stores.fresh session w' :=
  createSession_ok depth ready.records ready.free h

theorem openSession_compiles {hooks : Hooks}
    (h : openSession hooks shared options initial w = (.ok session, w')) :
    session.shared = shared ∧ Ruleset.compile options shared.schema = .ok session.rules := by
  obtain ⟨_, _, -, h⟩ := Effect.ok_of_bind h
  obtain ⟨_, prepared, -, h⟩ := Effect.ok_of_bind h
  obtain ⟨rules, compiled, ran, h⟩ := Effect.ok_of_bind h
  obtain ⟨tracker, _, -, h⟩ := Effect.ok_of_bind h
  obtain ⟨_, _, -, h⟩ := Effect.ok_of_bind h
  cases h
  rw [compileRules_apply] at ran
  cases found : Ruleset.compile options shared.schema with
  | error error =>
      rw [found] at ran
      cases ran
  | ok compiled =>
      rw [found] at ran
      cases ran
      exact ⟨rfl, rfl⟩

theorem openSession_error (ready : (w.prepare initial).Ready w.stores.fresh) {fault : Fault}
    (h : openSession (callbacks (depth + 1)) shared options initial w = (.error fault, w')) :
    (∀ rules, Ruleset.compile options shared.schema ≠ .ok rules) ∧
      (w.prepare initial).Notes w' :=
  createSession_error depth ready.records ready.free h

theorem setValues_ready (ready : w.Ready s) (plain : ∀ entry ∈ initial, entry.2.Plain) :
    Effect.Yields (setValues (callbacks (depth + 1)) s initial w)
      fun _ after => after.Ready s := by
  rw [setValues_apply]
  have written := (FormBecomes.refl (s := s) (t := 0) ready.records).updateStore (·.write initial)
  have keeps := Store.record_keeps ((w.storeAt s).write initial) ((w.storeAt s).changes initial)
  refine (record_deaf (t := 0) depth written.sameButForm.records _ ?_).mono fun _ after kept => ?_
  · rw [written.storeAt]
    intro id listening
    have listed : id ∈ (w.storeAt s).trackers := listening
    rw [ready.free] at listed
    cases listed
  · rw [written.storeAt] at kept
    have reads : after.storeAt s =
        (((w.storeAt s).write initial).record ((w.storeAt s).changes initial)).2 :=
      kept.storeAt
    refine ⟨kept.sameButForm.records, ?_, ?_, ?_, ?_⟩ <;> rw [reads]
    · rw [keeps.2.1]
      exact ready.free
    · intro outside
      rw [keeps.2.2] at outside
      simp only [Store.record, Store.write, show (w.storeAt s).batchDepth = 0 from outside, if_true]
      exact ready.idle outside
    · rw [keeps.1]
      exact Entries.forall_get?_putAll ready.plain plain
    · rw [keeps.2.2]
      exact kept.sameButForm.batches.trans ready.batches

theorem joinSession_ok (ready : w.Ready s) (plain : ∀ entry ∈ initial, entry.2.Plain)
    (h : joinSession (callbacks (depth + 1)) shared options s initial w = (.ok session, w')) :
    ∃ between : Workspace, between.Ready s ∧ between.Opened shared options s session w' := by
  unfold joinSession at h
  split at h
  next some =>
    obtain ⟨_, between, ran, h⟩ := Effect.ok_of_bind h
    have still := (setValues_ready depth ready plain).of_eq ran
    exact ⟨between, still, createSession_ok depth still.records still.free h⟩
  next none => exact ⟨w, ready, createSession_ok depth ready.records ready.free h⟩

/-! ## Taking into use -/

/-- The workspace with a new session that has a name and is in use. -/
def adopt (w : Workspace) (name : String) (session : Session) : Workspace :=
  { w.putSession w.sessions.fresh session with
    sessionNames := w.sessionNames.put name w.sessions.fresh
    session := some w.sessions.fresh
    store := ((w.putSession w.sessions.fresh session).sessionAt w.sessions.fresh).store }

theorem Opened.adopt (opened : w.Opened shared options s session w') (ready : w.Ready s)
    (name : String) : (w'.adopt name session).Attends w'.sessions.fresh := by
  have records := opened.listens.records
  have is := sessionAt_putSession w' w'.sessions.fresh session
  exact opened.attends ready rfl rfl rfl ⟨records.scripts, records.watchScripts⟩ rfl is
    ((congrArg Session.store is).trans opened.store)

/-! ## Another schema -/

/-- The store of an attended session is ready for another once its tracker has ceased to
    listen. -/
theorem Attends.stopped (attends : w.Attends id)
    (h : w.FormBecomes (w.sessionAt id).store (w.sessionAt id).tracker
      ((w.formOf (w.sessionAt id)).stop (w.sessionAt id).tracker) w') :
    w'.Ready (w.sessionAt id).store := by
  have sound := attends.serves.sound
  refine ⟨h.sameButForm.records, ?_, ?_, ?_, ?_⟩ <;> rw [h.storeAt]
  · show (Store.unsubscribe _ _).trackers = []
    rw [Store.trackers_unsubscribe]
    show (w.storeAt (w.sessionAt id).store).trackers.erase _ = []
    rw [attends.listens.listening, List.erase_cons_head]
  · exact sound.idle
  · exact sound.plain
  · exact h.sameButForm.batches.trans attends.batches

theorem setSchema_attends (attends : w.Attends id) {flag : Bool}
    (h : setSchema (callbacks (depth + 2)) id shared w = (.ok flag, w')) : w'.Attends id := by
  unfold setSchema at h
  rw [Effect.get_bind] at h
  split at h
  next =>
    cases h
    exact attends
  next =>
    rw [Effect.modify_bind] at h
    obtain ⟨_, stopped, ran, h⟩ := Effect.ok_of_bind h
    rw [Effect.modify_bind] at h
    obtain ⟨rules, compiled, made, h⟩ := Effect.ok_of_bind h
    rw [Effect.modify_bind] at h
    obtain ⟨tracker, created, began, h⟩ := Effect.ok_of_bind h
    obtain ⟨_, started, listening, h⟩ := Effect.ok_of_bind h
    rw [Effect.modify_bind] at h
    cases h
    -- The old tracker stops first: with two that listen the form would not be alone any more.
    have noted := attends.notes
      (attends.listens.records.addNotices [.schemaChanged shared.schema.title])
    have stop :=
      (stopTracker_form noted.listens.records noted.listens.follows noted.active).of_eq ran
    have parted : stopped.sessionAt id = w.sessionAt id := stop.sameButForm.sessionAt id
    have free := (noted.stopped stop).putSession id { w.sessionAt id with shared }
    rw [updateSession, parted] at made
    obtain ⟨found, notes⟩ := compileRules_ok free.records made
    have ruled : compiled.sessionAt id = { w.sessionAt id with shared } := by
      rw [sessionAt, notes.sessions]
      exact sessionAt_putSession stopped id _
    have ready := (free.notes notes).putSession id { w.sessionAt id with shared, rules }
    rw [updateSession, ruled] at began
    obtain ⟨becomes, listens⟩ :=
      ((createTracker_start (depth + 1) ready.records ready.free _).of_eq began).of_eq listening
    have last : started.sessionAt id = { w.sessionAt id with shared, rules } :=
      (becomes.sameButForm.sessionAt id).trans (sessionAt_putSession compiled id _)
    have opened : Opened _ shared (w.sessionAt id).options _
        { w.sessionAt id with shared, rules, tracker } started :=
      ⟨rfl, rfl, rfl, found, becomes, listens⟩
    have used : started.session = w.session :=
      becomes.sameButForm.session.trans (notes.session.trans stop.sameButForm.session)
    have current : started.store = w.store :=
      becomes.sameButForm.store.trans (notes.store.trans stop.sameButForm.store)
    rw [updateSession, last]
    exact opened.attends ready rfl rfl rfl ⟨listens.records.scripts,
      listens.records.watchScripts⟩ (used.trans attends.used)
      (sessionAt_putSession started id _) (current.trans attends.current)

end Formwork.Workspace
