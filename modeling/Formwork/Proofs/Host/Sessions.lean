import Formwork.Proofs.Host.Change
import Formwork.Proofs.Host.Telling
import Formwork.Proofs.Session.Opening

/-! # Trackers and sessions that come and go

Making a tracker, opening a session and giving it another schema are sequences of changes, however
the functions that are told of removed values interfere. A tracker that is being made is shut until
it is ready.
-/

namespace Formwork

open Workspace Effect

/-- Changes while some trackers are shut. -/
def Course.orderly (shut : List Nat) : Course where
  Sound := Orderly shut
  Leads := Changes shut
  refl := fun _ => .refl
  trans := .trans
  keeps := Changes.orderly
  store := fun s f trackers => (Change.store s f trackers).changes
  tracker := fun t f store conditions isActive formed =>
    (Change.tracker t f store conditions isActive formed).changes
  notices := fun notices => (addNotices_change shut _ notices).changes

/-- The functions that are called make changes, too, whichever trackers are shut. -/
def Hooks.Change (hooks : Hooks) : Prop := ∀ shut, hooks.Take (.orderly shut)

namespace Workspace

variable {α β : Type} {hooks : Hooks} {shut more : List Nat} {w w' : Workspace}

theorem goes_of_shut {run : Except Fault α × Workspace} {post : α → Workspace → Prop}
    (h : Goes (.orderly more) w run post) (within : shut ⊆ more) :
    Goes (.orderly shut) w run post :=
  ⟨Changes.mono h.leads within, h.answers⟩

/-- A tracker that has been made over a store, and that nobody has a hold of yet. -/
structure Made (shut : List Nat) (s : Nat) (fields : List Field) (t : Nat) (w : Workspace) :
    Prop where
  allowed : t ∉ shut
  known : w.Knows t
  free : ¬w.Holds t
  unused : w.tracker ≠ some t
  idle : (w.trackerAt t).isActive = false
  store : (w.trackerAt t).store = s
  conditions : (w.trackerAt t).conditions = Conditions.ofFields fields

theorem createTracker_apply (hooks : Hooks) (s : Nat) (fields : List Field) (w : Workspace) :
    createTracker hooks s fields w =
      (discard (runCycle hooks w.trackers.fresh (Conditions.ofFields fields).names) >>=
        fun _ => pure w.trackers.fresh)
      (w.updateTracker w.trackers.fresh fun _ => Tracker.ofFields s fields) := by
  unfold createTracker
  rw [get_bind, modify_bind]
  rfl

theorem createTracker_goes (change : hooks.Change) (orderly : w.Orderly shut) (s : Nat)
    (fields : List Field) :
    Goes (.orderly shut) w (createTracker hooks s fields w) (Made shut s fields) := by
  have created : Change shut w
      (w.updateTracker w.trackers.fresh fun _ => Tracker.ofFields s fields) := .create s fields
  have unknown := w.not_knows_fresh
  have shutting : (w.updateTracker w.trackers.fresh fun _ => Tracker.ofFields s fields).Orderly
      (w.trackers.fresh :: shut) := by
    refine { orderly.change created with shut := fun t member => ?_ }
    rcases List.mem_cons.mp member with rfl | member
    · exact ⟨Table.mem_keys_write.mpr (.inl rfl),
        fun inUse => unknown (orderly.used _ inUse).1⟩
    · exact (orderly.change created).shut t member
  have ran := runCycle_goes (change _) shutting w.trackers.fresh
    (Conditions.ofFields fields).names
  rw [createTracker_apply]
  refine .after created.changes ?_
  refine goes_of_shut (ran.discard.bind fun _ between leads _ => .pure ?_)
    (List.subset_cons_self _ _)
  have later := Changes.later leads
  have known := (shutting.shut _ List.mem_cons_self).1
  have made := trackerAt_updateTracker w w.trackers.fresh fun _ => Tracker.ofFields s fields
  refine ⟨fun member => unknown (orderly.shut _ member).1, later.knows _ known,
    later.free _ List.mem_cons_self fun holds => unknown (orderly.held _ holds),
    ((Changes.orderly leads shutting).shut _ List.mem_cons_self).2,
    later.idle _ List.mem_cons_self ?_, (later.store _ known).trans ?_,
    (later.conditions _ known).trans ?_⟩ <;> rw [made] <;> rfl

/-! ## Beginning and ceasing to listen -/

theorem startTracker_apply (t : Nat) (w : Workspace) :
    startTracker t w = (.ok (), if (w.trackerAt t).isActive then w else w.started t) := by
  unfold startTracker
  rw [get_bind]
  cases (w.trackerAt t).isActive <;> rfl

theorem stopTracker_apply (t : Nat) (w : Workspace) :
    stopTracker t w = (.ok (), if (w.trackerAt t).isActive then w.stopped t else w) := by
  unfold stopTracker
  rw [get_bind]
  cases (w.trackerAt t).isActive <;> rfl

theorem trackerAt_started (w : Workspace) (t : Nat) :
    (w.started t).trackerAt t = { w.trackerAt t with isActive := true } := by
  rw [started, trackerAt_updateTracker, trackerAt_updateStore]

theorem startTracker_goes {t : Nat} (allowed : t ∉ shut) (known : w.Knows t) :
    Goes (.orderly shut) w (startTracker t w) fun _ after => after.Knows t ∧
      after.tracker = w.tracker ∧
      after.trackerAt t = { w.trackerAt t with isActive := true } := by
  rw [startTracker_apply]
  split
  next active => exact ⟨.refl, fun _ _ => ⟨known, rfl, by rw [← active]⟩⟩
  next idle =>
    have started : Change shut w (w.started t) := .start t allowed known (Bool.not_eq_true _ ▸ idle)
    exact ⟨started.changes, fun _ _ => ⟨started.later.knows t known, rfl, w.trackerAt_started t⟩⟩

theorem stopTracker_goes (t : Nat) : Goes (.orderly shut) w (stopTracker t w) Any := by
  rw [stopTracker_apply]
  split
  next active => exact ⟨(Change.stop t active).changes, fun _ _ => trivial⟩
  · exact ⟨.refl, fun _ _ => trivial⟩

/-! ## Sessions -/

theorem compileRules_goes (options : CompileOptions) (schema : Schema) :
    Goes (.orderly shut) w (compileRules options schema w) Any := by
  rw [compileRules_apply]
  exact ⟨(Course.orderly shut).notices _, fun _ _ => trivial⟩

theorem createSession_goes (change : hooks.Change) (orderly : w.Orderly shut)
    (shared : SharedSchema) (options : CompileOptions) (store : Nat) :
    Goes (.orderly shut) w (createSession hooks shared options store w) (Owns shut) := by
  refine (compileRules_goes options shared.schema).bind fun rules compiled compiling _ => ?_
  refine (createTracker_goes change (Changes.orderly compiling orderly) store _).bind
    fun t created _ made => ?_
  refine (startTracker_goes made.allowed made.known).bind
    fun _ started _ listening => .pure ⟨listening.1, made.allowed, ?_⟩
  rw [listening.2.1]
  exact made.unused

theorem newStore_change (shut : List Nat) (w : Workspace) (initial : Entries Value) :
    Change shut w (w.prepare initial) := by
  refine .store w.stores.fresh _ ?_
  rw [storeAt, Table.read_of_not_mem w.stores.fresh_not_mem]
  rfl

theorem openSession_goes (change : hooks.Change) (orderly : w.Orderly shut)
    (shared : SharedSchema) (options : CompileOptions) (initial : Entries Value) :
    Goes (.orderly shut) w (openSession hooks shared options initial w) (Owns shut) := by
  have prepared := newStore_change shut w initial
  exact .after prepared.changes
    (createSession_goes change (orderly.change prepared) shared options w.stores.fresh)

theorem joinSession_goes (change : hooks.Change) (orderly : w.Orderly shut)
    (shared : SharedSchema) (options : CompileOptions) (store : Nat) (initial : Entries Value) :
    Goes (.orderly shut) w (joinSession hooks shared options store initial w) (Owns shut) := by
  unfold joinSession
  split
  · exact (setValues_goes (change shut) orderly store initial).bind fun _ _ writing _ =>
      createSession_goes change (Changes.orderly writing orderly) shared options store
  · exact createSession_goes change orderly shared options store

/-! ## Another schema -/

/-- A session has another schema, and its old tracker is stopped. -/
def withSchema (w : Workspace) (id : Nat) (shared : SharedSchema) : Workspace :=
  (stopTracker (w.sessionAt id).tracker
    (w.addNotices [.schemaChanged shared.schema.title])).2.updateSession id
      fun session => { session with shared }

/-- A session has another schema and its ruleset, and its old tracker is stopped. -/
def withRules (w : Workspace) (id : Nat) (shared : SharedSchema) (rules : Ruleset) : Workspace :=
  ((w.withSchema id shared).addNotices
    (Ruleset.compileNotices (w.sessionAt id).options shared.schema)).updateSession id
      fun session => { session with rules }

/-- Give a session a new tracker. -/
def takeTracker (hooks : Hooks) (id store : Nat) (fields : List Field) : Effect Bool := do
  let tracker ← createTracker hooks store fields
  startTracker tracker
  modify (·.updateSession id fun session => { session with tracker })
  return true

theorem setSchema_apply (hooks : Hooks) (id : Nat) (shared : SharedSchema) (w : Workspace) :
    setSchema hooks id shared w =
      if shared.isSame (w.sessionAt id).shared then (.ok false, w) else
        match Ruleset.compile (w.sessionAt id).options shared.schema with
        | .error error => (.error (.pattern error), (w.withSchema id shared).addNotices
            (Ruleset.compileNotices (w.sessionAt id).options shared.schema))
        | .ok rules => takeTracker hooks id (w.sessionAt id).store shared.schema.fields
            (w.withRules id shared rules) := by
  unfold setSchema
  rw [get_bind]
  split
  · rfl
  have stopping := stopTracker_apply (w.sessionAt id).tracker
    (w.addNotices [.schemaChanged shared.schema.title])
  rw [modify_bind, bind_of_ok stopping, modify_bind]
  have compiling := compileRules_apply (w.sessionAt id).options shared.schema
    (w.withSchema id shared)
  unfold withSchema at compiling
  rw [stopping] at compiling
  unfold withRules withSchema
  rw [stopping]
  cases compiled : Ruleset.compile (w.sessionAt id).options shared.schema with
  | error error =>
      rw [compiled] at compiling
      rw [bind_of_error compiling]
  | ok rules =>
      rw [compiled] at compiling
      rw [bind_of_ok compiling]
      rfl

theorem withSchema_changes {id : Nat} (known : w.HasSession id) (shared : SharedSchema) :
    Changes shut w (w.withSchema id shared) := by
  have noted := addNotices_change shut w [.schemaChanged shared.schema.title]
  have stopping : Goes (.orderly shut) w (stopTracker (w.sessionAt id).tracker
      (w.addNotices [.schemaChanged shared.schema.title])) Any :=
    .after noted.changes (stopTracker_goes _)
  refine Changes.then_ stopping.leads (.session id _ (.inl ⟨?_, rfl⟩))
  exact (Changes.later stopping.leads).hasSession id known

theorem withRules_changes {id : Nat} (known : w.HasSession id) (shared : SharedSchema)
    (rules : Ruleset) : Changes shut (w.withSchema id shared) (w.withRules id shared rules) := by
  have noted := addNotices_change shut (w.withSchema id shared)
    (Ruleset.compileNotices (w.sessionAt id).options shared.schema)
  have schema : Changes shut w (w.withSchema id shared) := withSchema_changes known shared
  exact noted.changes.then_ (.session id _
    (.inl ⟨noted.later.hasSession id (schema.later.hasSession id known), rfl⟩))

/-- The session has a tracker that listens to a store and shows some fields. -/
structure HasTracker (w : Workspace) (id s : Nat) (fields : List Field) : Prop where
  store : (w.trackerAt (w.sessionAt id).tracker).store = s
  conditions : (w.trackerAt (w.sessionAt id).tracker).conditions = Conditions.ofFields fields
  active : (w.trackerAt (w.sessionAt id).tracker).isActive = true

theorem takeTracker_goes (change : hooks.Change) (orderly : w.Orderly shut) (id s : Nat)
    (fields : List Field) :
    Goes (.orderly shut) w (takeTracker hooks id s fields w) fun answer after =>
      answer = true ∧ after.HasTracker id s fields := by
  refine (createTracker_goes change orderly s fields).bind fun t created _ made => ?_
  refine (startTracker_goes made.allowed made.known).bind fun _ started _ listening => ?_
  obtain ⟨known, unused, tracker⟩ := listening
  have given : Change shut started
      (started.updateSession id fun session => { session with tracker := t }) :=
    .session id _ (.inr ⟨known, made.allowed, unused ▸ made.unused⟩)
  have giving : Goes (.orderly shut) started ((modify (·.updateSession id fun session =>
      { session with tracker := t }) : Effect Unit) started) fun _ after =>
        after.HasTracker id s fields := .changing given.changes ?_
  · exact giving.bind fun _ _ _ has => .pure ⟨rfl, has⟩
  have session : ((started.updateSession id fun session =>
      { session with tracker := t }).sessionAt id).tracker = t := by
    rw [updateSession, sessionAt_putSession]
  have same : (started.updateSession id fun session =>
      { session with tracker := t }).trackerAt t = _ := tracker
  constructor <;> rw [session, same]
  · exact made.store
  · exact made.conditions

theorem setSchema_goes (change : hooks.Change) (orderly : w.Orderly shut) {id : Nat}
    (known : w.HasSession id) (shared : SharedSchema) :
    Goes (.orderly shut) w (setSchema hooks id shared w) Any := by
  have schema : Changes shut w (w.withSchema id shared) := withSchema_changes known shared
  rw [setSchema_apply]
  split
  · exact .pure trivial
  cases Ruleset.compile (w.sessionAt id).options shared.schema with
  | error error =>
      have noted := addNotices_change shut (w.withSchema id shared)
        (Ruleset.compileNotices (w.sessionAt id).options shared.schema)
      exact ⟨schema.then_ noted, nofun⟩
  | ok rules =>
      have ruled := schema.trans (withRules_changes known shared rules)
      exact .after ruled (takeTracker_goes change (Changes.orderly ruled orderly) id _ _).any

/-! ## What is in use -/

theorem orFault_goes {course : Course} (fault : Fault) (value : Option α) :
    Goes course w (Effect.orFault fault value w) fun answer after =>
      value = some answer ∧ after = w := by
  cases value with
  | none => exact .fail fault
  | some value => exact .pure ⟨rfl, rfl⟩

theorem sharedSchema_goes {course : Course} (key : String) :
    Goes course w (sharedSchema key w) Any := by
  unfold sharedSchema
  exact (orFault_goes _ _).answering _

theorem sessionInUse_goes (orderly : w.Orderly shut) :
    Goes (.orderly shut) w (sessionInUse w) fun id after => after = w ∧ w.HasSession id := by
  unfold sessionInUse
  exact (orFault_goes _ _).mono fun id after found => ⟨found.2, orderly.session id found.1⟩

theorem trackerInUse_goes : Goes (.orderly shut) w (trackerInUse w) fun t after =>
    after = w ∧ w.tracker = some t := by
  unfold trackerInUse
  exact (orFault_goes _ _).mono fun t after found => ⟨found.2, found.1⟩

theorem currentSession_goes (orderly : w.Orderly shut) :
    Goes (.orderly shut) w (currentSession w) fun session after =>
      after = w ∧ ∃ id, w.HasSession id ∧ session = w.sessionAt id := by
  unfold currentSession
  rw [get_bind]
  refine (sessionInUse_goes orderly).bind fun id between _ found => .pure ?_
  exact ⟨found.1, id, found.2, rfl⟩

theorem useSession_goes {id : Nat} (known : w.HasSession id) :
    Goes (.orderly shut) w (useSession id w) Any :=
  .changing (Change.useSession id known).changes trivial

theorem adoptSession_goes (name : String) {session : Session} (owns : Owns shut session w) :
    Goes (.orderly shut) w (adoptSession name session w) Any := by
  unfold adoptSession
  rw [get_bind, modify_bind]
  have put : Change shut w (w.putSession w.sessions.fresh session) := .session _ _ (.inr owns)
  have there : (w.putSession w.sessions.fresh session).HasSession w.sessions.fresh :=
    Table.mem_keys_write.mpr (.inl rfl)
  have naming : Goes (.orderly shut) (w.putSession w.sessions.fresh session)
      ((modify fun workspace => { workspace with
        sessionNames := workspace.sessionNames.put name w.sessions.fresh } : Effect Unit)
          (w.putSession w.sessions.fresh session)) fun _ after =>
            after.HasSession w.sessions.fresh :=
    .changing (Change.nameSession name w.sessions.fresh there).changes there
  exact .after put.changes (naming.bind fun _ _ _ named => useSession_goes named)

end Workspace

end Formwork
