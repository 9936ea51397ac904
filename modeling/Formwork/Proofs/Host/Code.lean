import Formwork.Proofs.Host.Sessions
import Formwork.Proofs.Session.Filling

/-! # Batches and cycles come to an end

A host groups what it does in batches, and its functions do the same again while they are called.
Any of this may fail. A batch is closed however it is left, and a cycle that has told of what it
removed has done so even if somebody failed. So in the end each store has as many open batches as
before, and trackers that were not announcing are not announcing.
-/

namespace Formwork

open Effect

/-! ## What a host does -/

namespace Effect

variable {α : Type}

/-- Run a computation and, whether it fails or not, another one after it. If both fail, the fault
    is that of the second. -/
def lastly (action : Effect α) (after : Effect Unit) : Effect α := fun w =>
  match after (action w).2 with
  | (.ok _, w') => ((action w).1, w')
  | (.error fault, w') => (.error fault, w')

/-- Run a computation and, if it fails, another one. -/
def rescued (action : Effect α) (rescue : Fault → Effect α) : Effect α := fun w =>
  match action w with
  | (.ok answer, w') => (.ok answer, w')
  | (.error fault, w') => rescue fault w'

end Effect

/-- Run a computation in a batch of a store, which is closed after it. -/
def Workspace.inBatch {α : Type} (hooks : Hooks) (store : Nat) (body : Effect α) : Effect α := do
  modify (·.updateStore store (·.openBatch))
  body.lastly (closeBatch hooks store)

/-- Whether an action opens a batch that it does not close, or the other way round. -/
def Action.isLopsided : Action → Bool
  | .openBatch | .closeBatch _ => true
  | _ => false

/-- What a host does, step by step. How it goes on can depend on what came of it until then, and on
    everything else there is. -/
inductive Code where
  | done
  | fail (fault : Fault)
  /-- Change what belongs to the host alone. -/
  | own (change : Workspace → Workspace)
      (apart : ∀ w, (change w).stores = w.stores ∧ (change w).trackers = w.trackers)
      (next : Workspace → Code)
  | write (store : Nat) (values : Entries Value) (next : Code)
  | clear (store : Nat) (names : List String) (telling : Bool) (next : List String → Code)
  | publish (store : Nat) (names : List String) (next : Code)
  | perform (action : Action) (even : action.isLopsided = false) (next : Result → Code)
  | batch (store : Nat) (body next : Code)
  /-- Do something else if the body fails. -/
  | attempt (body : Code) (rescue : Fault → Code) (next : Code)

namespace Code

def run (hooks : Hooks) : Code → Effect Unit
  | .done => pure ()
  | .fail fault => throw fault
  | .own change _ next => do
      modify change
      run hooks (next (← get))
  | .write store values next => do
      Workspace.setValues hooks store values
      run hooks next
  | .clear store names telling next => do
      let removed ← Workspace.clear hooks store names telling
      run hooks (next removed)
  | .publish store names next => do
      Workspace.record hooks store names
      run hooks next
  | .perform action _ next => do
      let result ← Workspace.perform hooks action
      run hooks (next result)
  | .batch store body next => do
      Workspace.inBatch hooks store (run hooks body)
      run hooks next
  | .attempt body rescue next => do
      (run hooks body).rescued fun fault => run hooks (rescue fault)
      run hooks next

end Code

/-- The functions of a host: what they do when they are told of changed fields, or of a map. -/
structure Host where
  changed : String → List String → Entries Value → Code
  shown : String → Visibility → Code

/-- What happens when a listener is called, down to a depth: a tracker reacts, and a function of the
    host runs its code. -/
def Host.hooks (host : Host) : Nat → Hooks
  | 0 => { changed := fun _ _ _ => throw .tooDeep, shown := fun _ _ => throw .tooDeep }
  | depth + 1 =>
      { changed := fun listener names values => match listener with
          | .tracker id => Workspace.react (host.hooks depth) id names
          | .host name => (host.changed name names values).run (host.hooks depth)
        shown := fun name map => (host.shown name map).run (host.hooks depth) }

/-! ## What it leaves as it was -/

/-- Outside of all batches nothing is left to tell. -/
def Store.Settled (store : Store) : Prop := store.batchDepth = 0 → store.pending = []

namespace Store

theorem batchDepth_record (store : Store) (names : List String) :
    (store.record names).2.batchDepth = store.batchDepth := by
  unfold record
  split <;> rfl

theorem Settled.record {store : Store} (settled : store.Settled) (names : List String) :
    (store.record names).2.Settled := by
  unfold Store.record
  split
  · exact settled
  next inside => exact fun outside => absurd outside inside

theorem batchDepth_closeBatch (store : Store) :
    store.closeBatch.2.batchDepth = store.batchDepth - 1 := by
  unfold closeBatch
  split
  · dsimp only
    omega
  · rfl

theorem settled_closeBatch (store : Store) : store.closeBatch.2.Settled := by
  unfold closeBatch
  split
  · exact fun _ => rfl
  · intro outside
    dsimp only at outside
    omega

end Store

namespace Workspace

variable {w w' w'' : Workspace}

/-- Every store has as many open batches as before, and nothing is left to tell outside of them.
    Every tracker is announcing if it was before. -/
structure Restored (w w' : Workspace) : Prop where
  depth (s : Nat) : (w'.storeAt s).batchDepth = (w.storeAt s).batchDepth
  settled (s : Nat) : (w.storeAt s).Settled → (w'.storeAt s).Settled
  announcing (t : Nat) : (w'.trackerAt t).isAnnouncing = (w.trackerAt t).isAnnouncing

namespace Restored

theorem refl (w : Workspace) : w.Restored w := ⟨fun _ => rfl, fun _ => id, fun _ => rfl⟩

theorem trans (h : w.Restored w') (h' : w'.Restored w'') : w.Restored w'' where
  depth s := (h'.depth s).trans (h.depth s)
  settled s := h'.settled s ∘ h.settled s
  announcing t := (h'.announcing t).trans (h.announcing t)

theorem of_same (stores : w'.stores = w.stores) (trackers : w'.trackers = w.trackers) :
    w.Restored w' := by
  have store (s : Nat) : w'.storeAt s = w.storeAt s := by rw [storeAt, stores, storeAt]
  have tracker (t : Nat) : w'.trackerAt t = w.trackerAt t := by rw [trackerAt, trackers, trackerAt]
  exact ⟨fun s => by rw [store], fun s => by rw [store]; exact id, fun t => by rw [tracker]⟩

theorem updateStore (s : Nat) {f : Store → Store}
    (depth : (f (w.storeAt s)).batchDepth = (w.storeAt s).batchDepth)
    (settled : (w.storeAt s).Settled → (f (w.storeAt s)).Settled) :
    w.Restored (w.updateStore s f) := by
  have elsewhere {other : Nat} (apart : other ≠ s) := storeAt_updateStore_of_ne w apart f
  refine ⟨fun other => ?_, fun other => ?_, fun _ => rfl⟩
  · by_cases same : other = s
    · rw [same, storeAt_updateStore, depth]
    · rw [elsewhere same]
  · by_cases same : other = s
    · rw [same, storeAt_updateStore]
      exact settled
    · rw [elsewhere same]
      exact id

theorem updateTracker (t : Nat) {f : Tracker → Tracker}
    (announcing : (f (w.trackerAt t)).isAnnouncing = (w.trackerAt t).isAnnouncing) :
    w.Restored (w.updateTracker t f) := by
  refine ⟨fun _ => rfl, fun _ => id, fun other => ?_⟩
  by_cases same : other = t
  · subst same
    rw [trackerAt_updateTracker, announcing]
  · rw [trackerAt_updateTracker_of_ne w same]

theorem addNotices (notices : List Notice) : w.Restored (w.addNotices notices) := of_same rfl rfl

end Restored

end Workspace

namespace Effect

variable {α β : Type}

/-- However a computation ends, it leaves batches and announcements as they were. -/
def Restores (action : Effect α) : Prop := ∀ w, Workspace.Restored w (action w).2

namespace Restores

theorem pure (answer : α) : Restores (Pure.pure answer : Effect α) := fun w => .refl w

theorem fail (fault : Fault) : Restores (throw fault : Effect α) := fun w => .refl w

theorem changing {f : Workspace → Workspace} (h : ∀ w, Workspace.Restored w (f w)) :
    Restores (modify f : Effect Unit) := h

theorem bind {first : Effect α} {next : α → Effect β} (h : Restores first)
    (rest : ∀ answer, Restores (next answer)) : Restores (first >>= next) := fun w =>
  snd_bind (h w) fun answer between restored => restored.trans (rest answer between)

theorem get_bind {next : Workspace → Effect α} (h : ∀ w, Restores (next w)) :
    Restores ((get : Effect Workspace) >>= next) := fun w => h w w

theorem answering {first : Effect α} (h : Restores first) (f : α → β) :
    Restores (first >>= fun answer => Pure.pure (f answer)) :=
  h.bind fun _ => .pure _

theorem discard {first : Effect α} (h : Restores first) : Restores (discard first) :=
  h.answering _

theorem orFault (fault : Fault) (value : Option α) : Restores (Effect.orFault fault value) := by
  cases value with
  | none => exact .fail fault
  | some value => exact .pure value

theorem rescued {action : Effect α} {rescue : Fault → Effect α} (h : Restores action)
    (rest : ∀ fault, Restores (rescue fault)) : Restores (action.rescued rescue) := by
  intro w
  have restored := h w
  unfold Effect.rescued
  split
  next ran => rwa [ran] at restored
  next fault between ran =>
    rw [ran] at restored
    exact restored.trans (rest fault between)

end Restores

theorem snd_ensuring (action : Effect α) (after : Workspace → Workspace) (w : Workspace) :
    (action.ensuring after w).2 = after (action w).2 := rfl

theorem snd_lastly (action : Effect α) (after : Effect Unit) (w : Workspace) :
    (action.lastly after w).2 = (after (action w).2).2 := by
  unfold lastly
  split
  next ran => rw [ran]
  next ran => rw [ran]

end Effect

/-- Whoever is called leaves batches and announcements as they were. -/
structure Hooks.Restore (hooks : Hooks) : Prop where
  changed (listener : Listener) (names : List String) (values : Entries Value) :
    Restores (hooks.changed listener names values)
  shown (listener : String) (map : Visibility) : Restores (hooks.shown listener map)

namespace Workspace

variable {hooks : Hooks} {w : Workspace}

/-! ## Changes -/

theorem callListeners_restores (restore : hooks.Restore) (store : Nat) (names : List String)
    (listeners : List Listener) : Restores (callListeners hooks store names listeners) := by
  induction listeners with
  | nil => exact .pure ()
  | cons listener rest ih =>
      exact .get_bind fun w => (restore.changed listener names _).bind fun _ => ih

theorem notify_restores (restore : hooks.Restore) (store : Nat) (names : List String) :
    Restores (notify hooks store names) := by
  unfold notify
  split
  · exact .get_bind fun w => callListeners_restores restore store names _
  · exact .pure ()

theorem record_restores (restore : hooks.Restore) (store : Nat) (names : List String) :
    Restores (record hooks store names) := by
  intro w
  have recorded : w.Restored (w.updateStore store fun _ => ((w.storeAt store).record names).2) :=
    .updateStore store (Store.batchDepth_record _ names) fun settled => settled.record names
  rw [record_apply]
  exact recorded.trans (notify_restores restore store _ _)

theorem setValues_restores (restore : hooks.Restore) (store : Nat) (values : Entries Value) :
    Restores (setValues hooks store values) := by
  intro w
  have written : w.Restored (w.updateStore store (·.write values)) := .updateStore store rfl id
  rw [setValues_apply]
  exact written.trans (record_restores restore store _ _)

theorem clear_restores (restore : hooks.Restore) (store : Nat) (names : List String)
    (telling : Bool) : Restores (clear hooks store names telling) := by
  unfold clear
  refine .get_bind fun w => (Restores.changing fun w => .updateStore store rfl id).bind fun _ => ?_
  have tell (names : List String) : Restores (do
      if telling then record hooks store names
      return names) := by
    cases telling
    · exact .pure names
    · exact (record_restores restore store names).answering _
  dsimp only
  split
  · exact (Restores.changing fun w => .addNotices _).bind fun _ => tell _
  · exact tell _

/-! ## Batches -/

theorem inBatch_restores {α : Type} (restore : hooks.Restore) {body : Effect α} (h : Restores body)
    (store : Nat) : Restores (inBatch hooks store body) := by
  intro w
  have opened := h (w.updateStore store (·.openBatch))
  show w.Restored (body.lastly (closeBatch hooks store) (w.updateStore store (·.openBatch))).2
  rw [snd_lastly, closeBatch_apply]
  refine Restored.trans ?_ (notify_restores restore store _ _)
  generalize (body _).2 = between at opened ⊢
  have inside := opened.depth store
  rw [storeAt_updateStore] at inside
  refine ⟨fun s => ?_, fun s => ?_, opened.announcing⟩
  · by_cases same : s = store
    · rw [same, storeAt_updateStore, Store.batchDepth_closeBatch, inside]
      rfl
    · rw [storeAt_updateStore_of_ne _ same, opened.depth, storeAt_updateStore_of_ne _ same]
  · by_cases same : s = store
    · rw [same, storeAt_updateStore]
      exact fun _ => Store.settled_closeBatch _
    · rw [storeAt_updateStore_of_ne _ same]
      exact opened.settled s ∘ by rw [storeAt_updateStore_of_ne _ same]; exact id

/-! ## Cycles -/

theorem callWatchers_restores (restore : hooks.Restore) (map : Visibility)
    (listeners : List String) : Restores (callWatchers hooks map listeners) := by
  induction listeners with
  | nil => exact .pure ()
  | cons listener rest ih => exact (restore.shown listener map).bind fun _ => ih

theorem afterPasses_restored (w : Workspace) (s t : Nat) (affected : List String) :
    w.Restored (w.afterPasses s t affected) := by
  have removed : w.Restored (w.updateStore s (·.remove (w.cycleAt s t affected).cleared)) :=
    .updateStore s rfl id
  exact (removed.trans (.addNotices _)).trans (.updateTracker t rfl)

/-- An announcement is over when the computation is that it is made in, even if that failed. -/
theorem announcing_restored {α : Type} {action : Effect α} (h : Restores action) {t : Nat}
    (quiet : (w.trackerAt t).isAnnouncing = false) :
    w.Restored (action.ensuring
      (·.updateTracker t fun tracker => { tracker with isAnnouncing := false })
      (w.updateTracker t fun tracker => { tracker with isAnnouncing := true })).2 := by
  have told := h (w.updateTracker t fun tracker => { tracker with isAnnouncing := true })
  rw [snd_ensuring]
  refine ⟨told.depth, told.settled, fun other => ?_⟩
  by_cases same : other = t
  · rw [same, trackerAt_updateTracker, quiet]
  · rw [trackerAt_updateTracker_of_ne _ same, told.announcing,
      trackerAt_updateTracker_of_ne _ same]

/-- A tracker that was not announcing does not announce after a cycle, even if somebody failed who
    was told of what the cycle removed. -/
theorem runCycle_restored (restore : hooks.Restore) {t : Nat}
    (quiet : (w.trackerAt t).isAnnouncing = false) (affected : List String) :
    w.Restored (runCycle hooks t affected w).2 := by
  have passed := w.afterPasses_restored (w.trackerAt t).store t affected
  rw [runCycle_apply hooks rfl]
  split
  · exact passed
  · rw [snd_bind_pure]
    exact passed.trans (announcing_restored (record_restores restore _ _)
      ((passed.announcing t).trans quiet))

/-- A tracker that is announcing does not react, so the cycles of one tracker are never nested. -/
theorem react_restores (restore : hooks.Restore) (t : Nat) (names : List String) :
    Restores (react hooks t names) := by
  intro w
  rw [react_apply]
  split
  · exact .refl w
  next some =>
    have quiet : (w.trackerAt t).isAnnouncing = false := by
      rw [Bool.eq_false_iff]
      intro announcing
      rw [Tracker.reactsTo, announcing] at some
      exact some rfl
    refine snd_bind (runCycle_restored restore quiet _) fun answer between cycled =>
      cycled.trans ?_
    have tell : Restores (tellWatchers hooks t answer) := by
      unfold tellWatchers
      split
      · exact (Restores.changing fun w => .addNotices _).bind fun _ =>
          .get_bind fun w => callWatchers_restores restore _ _
      · exact .pure ()
    exact tell between

theorem createTracker_restores (restore : hooks.Restore) (store : Nat) (fields : List Field) :
    Restores (createTracker hooks store fields) := by
  intro w
  have created : w.Restored (w.updateTracker w.trackers.fresh fun _ =>
      Tracker.ofFields store fields) := by
    refine .updateTracker _ ?_
    rw [trackerAt, Table.read_of_not_mem (Table.fresh_not_mem _)]
    rfl
  rw [createTracker_apply, snd_bind_pure]
  refine created.trans ?_
  rw [discard_eq, snd_bind_pure]
  exact runCycle_restored restore (by rw [trackerAt_updateTracker]; rfl) _

theorem started_restored (w : Workspace) (t : Nat) : w.Restored (w.started t) := by
  have listening : w.Restored (w.updateStore (w.trackerAt t).store (·.subscribe (.tracker t))) :=
    .updateStore _ rfl id
  exact listening.trans (.updateTracker t rfl)

theorem startTracker_restores (t : Nat) : Restores (startTracker t) := by
  intro w
  rw [startTracker_apply]
  split
  · exact .refl w
  · exact w.started_restored t

theorem stopped_restored (w : Workspace) (t : Nat) : w.Restored (w.stopped t) := by
  have ceased : w.Restored (w.updateStore (w.trackerAt t).store (·.unsubscribe (.tracker t))) :=
    .updateStore _ rfl id
  exact ceased.trans (.updateTracker t rfl)

theorem stopTracker_restores (t : Nat) : Restores (stopTracker t) := by
  intro w
  rw [stopTracker_apply]
  split
  · exact w.stopped_restored t
  · exact .refl w

/-! ## Sessions -/

theorem apart_restores {f : Workspace → Workspace} (stores : ∀ w, (f w).stores = w.stores)
    (trackers : ∀ w, (f w).trackers = w.trackers) : Restores (modify f : Effect Unit) :=
  .changing fun w => .of_same (stores w) (trackers w)

theorem addNotices_restores (notices : List Notice) :
    Restores (modify (·.addNotices notices) : Effect Unit) :=
  .changing fun _ => .addNotices notices

theorem compileRules_restores (options : CompileOptions) (schema : Schema) :
    Restores (compileRules options schema) := by
  refine (addNotices_restores _).bind fun _ => ?_
  cases Ruleset.compile options schema with
  | ok rules => exact .pure rules
  | error error => exact .fail _

theorem createSession_restores (restore : hooks.Restore) (shared : SharedSchema)
    (options : CompileOptions) (store : Nat) :
    Restores (createSession hooks shared options store) :=
  (compileRules_restores _ _).bind fun _ => (createTracker_restores restore _ _).bind fun t =>
    (startTracker_restores t).answering _

theorem openSession_restores (restore : hooks.Restore) (shared : SharedSchema)
    (options : CompileOptions) (initial : Entries Value) :
    Restores (openSession hooks shared options initial) := by
  intro w
  have absent : w.storeAt w.stores.fresh = default :=
    Table.read_of_not_mem (Table.fresh_not_mem _)
  have created : w.Restored (w.updateStore w.stores.fresh fun _ => { values := initial }) :=
    .updateStore _ (by rw [absent]; rfl) fun _ _ => rfl
  exact created.trans (createSession_restores restore shared options _ _)

theorem joinSession_restores (restore : hooks.Restore) (shared : SharedSchema)
    (options : CompileOptions) (store : Nat) (initial : Entries Value) :
    Restores (joinSession hooks shared options store initial) := by
  unfold joinSession
  split
  · exact (setValues_restores restore store initial).bind fun _ =>
      createSession_restores restore shared options store
  · exact createSession_restores restore shared options store

theorem setSchema_restores (restore : hooks.Restore) (id : Nat) (shared : SharedSchema) :
    Restores (setSchema hooks id shared) := by
  unfold setSchema
  refine .get_bind fun w => ?_
  dsimp only
  split
  · exact .pure false
  refine (addNotices_restores _).bind fun _ => (stopTracker_restores _).bind fun _ => ?_
  refine .bind (apart_restores (fun _ => rfl) fun _ => rfl) fun _ => ?_
  refine (compileRules_restores _ _).bind fun rules => ?_
  refine .bind (apart_restores (fun _ => rfl) fun _ => rfl) fun _ => ?_
  refine (createTracker_restores restore _ _).bind fun t => ?_
  refine (startTracker_restores t).bind fun _ => ?_
  exact .bind (apart_restores (fun _ => rfl) fun _ => rfl) fun _ => .pure _

theorem conclude_restores (found : Findings) : Restores (conclude found) :=
  (addNotices_restores _).bind fun _ =>
    .bind (apart_restores (fun _ => rfl) fun _ => rfl) fun _ => .pure _

theorem validateLocal_restores (session : Session) : Restores (validateLocal session) :=
  .get_bind fun _ => conclude_restores _

theorem validate_restores (session : Session) : Restores (validate session) :=
  .get_bind fun _ => conclude_restores _

theorem submit_restores (session : Session) : Restores (submit session) := by
  refine (validate_restores session).bind fun outcome => ?_
  split
  · exact .get_bind fun w => .pure _
  · exact (addNotices_restores _).answering _

/-! ## What is in use -/

theorem sharedSchema_restores (key : String) : Restores (sharedSchema key) :=
  .get_bind fun _ => (Restores.orFault _ _).answering _

theorem trackerInUse_restores : Restores trackerInUse := .get_bind fun _ => .orFault _ _

theorem sessionInUse_restores : Restores sessionInUse := .get_bind fun _ => .orFault _ _

theorem currentSession_restores : Restores currentSession :=
  .get_bind fun _ => sessionInUse_restores.answering _

theorem currentRun_restores : Restores currentRun := .get_bind fun _ => .orFault _ _

theorem adoptSession_restores (name : String) (session : Session) :
    Restores (adoptSession name session) :=
  .get_bind fun _ => .bind (apart_restores (fun _ => rfl) fun _ => rfl) fun _ =>
    .bind (apart_restores (fun _ => rfl) fun _ => rfl) fun _ =>
      apart_restores (fun _ => rfl) fun _ => rfl

/-! ## Listening -/

theorem subscribe_restores (subscription listener : String) (script : List Action) (times : Nat) :
    Restores (subscribe subscription listener script times) := by
  refine .changing fun w => ?_
  have listening : w.Restored (w.updateStore w.store (·.subscribe (.host listener))) :=
    .updateStore _ rfl id
  exact listening.trans (.of_same rfl rfl)

theorem unsubscribe_restores (name : String) : Restores (unsubscribe name) := by
  refine .get_bind fun w => (Restores.orFault _ _).bind fun subscription => ?_
  split
  · exact (Restores.changing fun w => .updateStore _ rfl id).bind fun _ =>
      apart_restores (fun _ => rfl) fun _ => rfl
  · exact .pure ()

theorem watch_restores (t : Nat) (listener : String) (script : List Action) (times : Nat) :
    Restores (watch t listener script times) := by
  refine .changing fun w => ?_
  have watched : w.Restored (w.updateTracker t (·.watch listener)) := .updateTracker t rfl
  exact watched.trans (.of_same rfl rfl)

theorem unwatch_restores (listener : String) : Restores (unwatch listener) :=
  .get_bind fun _ => (Restores.orFault _ _).bind fun t => .changing fun _ => .updateTracker t rfl

/-! ## Steps -/

theorem handIn_restores (submission : Submission) (data : Entries Value) :
    Restores (handIn submission data) := by
  have handed : Restores (modify (·.addEvent (.submitted data)) : Effect Unit) :=
    apart_restores (fun _ => rfl) fun _ => rfl
  cases submission with
  | ignored => exact .pure ()
  | accepted => exact handed
  | failing fault => exact handed.bind fun _ => .fail _

theorem advance_restores (data : Entries Value) : Restores (advance data) := by
  refine currentRun_restores.bind fun run => (Restores.orFault _ _).bind fun sequence => ?_
  refine .bind (apart_restores (fun _ => rfl) fun _ => rfl) fun _ => ?_
  refine (addNotices_restores _).bind fun _ => ?_
  split
  · exact (handIn_restores _ _).answering _
  · exact .pure _

theorem retreat_restores : Restores retreat := by
  refine currentRun_restores.bind fun run => (Restores.orFault _ _).bind fun sequence => ?_
  exact .bind (apart_restores (fun _ => rfl) fun _ => rfl) fun _ => addNotices_restores _

theorem openStep_restores (restore : hooks.Restore) : Restores (openStep hooks) :=
  currentRun_restores.bind fun _ => .get_bind fun _ => openSession_restores restore _ _ _

theorem submitStep_restores (session : Session) : Restores (submitStep session) := by
  refine (submit_restores session).bind fun answer => ?_
  obtain ⟨outcome, payload⟩ := answer
  cases payload with
  | none => exact .pure outcome
  | some data => exact (advance_restores data).discard.answering _

theorem beginRun_restores (key : String) (submission : Submission)
    (start : Schema → StepSequence) : Restores (beginRun key submission start) :=
  (sharedSchema_restores key).bind fun _ => apart_restores (fun _ => rfl) fun _ => rfl

theorem stateOrCurrent_restores (document : Option Value) : Restores (stateOrCurrent document) := by
  cases document with
  | none => exact currentRun_restores.answering _
  | some document =>
      refine .get_bind fun w => ?_
      cases StepState.ofValue w.now document with
      | read state => exact .pure state
      | refused issues => exact .fail _

theorem sign_restores : Restores sign :=
  .get_bind fun _ => currentRun_restores.bind fun _ =>
    .bind (apart_restores (fun _ => rfl) fun _ => rfl) fun _ => .pure _

theorem verifyLater_restores (later : Binary64) (limit : Option Value) :
    Restores (verifyLater later limit) := by
  refine .bind (apart_restores (fun _ => rfl) fun _ => rfl) fun _ => .get_bind fun w => ?_
  cases w.token with
  | none => exact .pure none
  | some token => exact (addNotices_restores _).answering _

/-! ## All actions -/

theorem perform_restores (restore : hooks.Restore) {action : Action}
    (even : action.isLopsided = false) : Restores (perform hooks action) := by
  -- what is done with the session in use
  have using_ {α : Type} {next : Session → Effect α} (rest : ∀ session, Restores (next session)) :
      Restores (currentSession >>= next) := currentSession_restores.bind rest
  cases action
  all_goals rw [perform]
  case get => exact .get_bind fun _ => .get_bind fun _ => .pure _
  case has => exact .get_bind fun _ => .get_bind fun _ => .pure _
  case set => exact .get_bind fun _ => (setValues_restores restore _ _).answering _
  case setMany => exact .get_bind fun _ => (setValues_restores restore _ _).answering _
  case clear => exact .get_bind fun _ => (clear_restores restore _ _ _).answering _
  case publish => exact .get_bind fun _ => (record_restores restore _ _).answering _
  case openBatch => cases even
  case closeBatch => cases even
  case subscribe => exact (subscribe_restores _ _ _ _).answering _
  case unsubscribe => exact (unsubscribe_restores _).answering _
  case fail => exact .fail _
  case track =>
    exact (sharedSchema_restores _).bind fun _ => .get_bind fun _ =>
      (createTracker_restores restore _ _).bind fun _ =>
        .bind (apart_restores (fun _ => rfl) fun _ => rfl) fun _ => .get_bind fun _ => .pure _
  case start =>
    exact trackerInUse_restores.bind fun t => (startTracker_restores t).bind fun _ =>
      .get_bind fun _ => trackerInUse_restores.answering _
  case stop =>
    exact trackerInUse_restores.bind fun t => (stopTracker_restores t).bind fun _ =>
      .get_bind fun _ => trackerInUse_restores.answering _
  case watch => exact trackerInUse_restores.bind fun _ => (watch_restores _ _ _ _).answering _
  case unwatch => exact (unwatch_restores _).answering _
  case isVisible => exact .get_bind fun _ => trackerInUse_restores.answering _
  case openSession key name external initial =>
    refine (sharedSchema_restores _).bind fun _ => .get_bind fun _ => ?_
    cases external with
    | true =>
        exact (joinSession_restores restore _ _ _ _).bind fun _ =>
          (adoptSession_restores _ _).answering _
    | false =>
        exact (openSession_restores restore _ _ _).bind fun _ =>
          (adoptSession_restores _ _).answering _
  case use =>
    exact .get_bind fun _ => (Restores.orFault _ _).bind fun _ =>
      .bind (apart_restores (fun _ => rfl) fun _ => rfl) fun _ => .pure _
  case setSchema =>
    exact (sharedSchema_restores _).bind fun _ => sessionInUse_restores.bind fun _ =>
      (setSchema_restores restore _ _).answering _
  case sessionSet => exact using_ fun _ => (setValues_restores restore _ _).answering _
  case sessionSetMany => exact using_ fun _ => (setValues_restores restore _ _).answering _
  case sessionWatch => exact using_ fun _ => (watch_restores _ _ _ _).answering _
  case validateLocal => exact using_ fun _ => (validateLocal_restores _).answering _
  case validate => exact using_ fun _ => (validate_restores _).answering _
  case payload => exact .get_bind fun _ => using_ fun _ => .pure _
  case submit => exact using_ fun _ => (submit_restores _).answering _
  case describe => exact using_ fun _ => .get_bind fun _ => .pure _
  case close => exact using_ fun _ => (stopTracker_restores _).answering _
  case begin => exact .get_bind fun _ => (beginRun_restores _ _ _).answering _
  case advance => exact (advance_restores _).answering _
  case retreat => exact retreat_restores.answering _
  case openStep =>
    exact (openStep_restores restore).bind fun _ => (adoptSession_restores _ _).answering _
  case submitStep => exact using_ fun _ => (submitStep_restores _).answering _
  case snapshot => exact currentRun_restores.answering _
  case restore =>
    exact (stateOrCurrent_restores _).bind fun _ => (beginRun_restores _ _ _).answering _
  case sign => exact sign_restores.answering _
  case resume =>
    refine (verifyLater_restores _ _).bind fun state => ?_
    cases state with
    | none => exact .pure _
    | some state => exact (beginRun_restores _ _ _).answering _

end Workspace

/-! ## Runs -/

theorem Code.run_restores {hooks : Hooks} (restore : hooks.Restore) (code : Code) :
    Restores (code.run hooks) := by
  induction code with
  | done => exact .pure ()
  | fail fault => exact .fail fault
  | own change apart next ih =>
      exact .bind (.changing fun w => .of_same (apart w).1 (apart w).2) fun _ =>
        .get_bind fun w => ih w
  | write store values next ih =>
      exact (Workspace.setValues_restores restore store values).bind fun _ => ih
  | clear store names telling next ih =>
      exact (Workspace.clear_restores restore store names telling).bind ih
  | publish store names next ih =>
      exact (Workspace.record_restores restore store names).bind fun _ => ih
  | perform action even next ih => exact (Workspace.perform_restores restore even).bind ih
  | batch store body next inside ih =>
      exact (Workspace.inBatch_restores restore inside store).bind fun _ => ih
  | attempt body rescue next inside instead ih =>
      exact (inside.rescued instead).bind fun _ => ih

theorem Host.hooks_restore (host : Host) (depth : Nat) : (host.hooks depth).Restore := by
  induction depth with
  | zero => exact ⟨fun _ _ _ => .fail _, fun _ _ => .fail _⟩
  | succ depth ih =>
      refine ⟨fun listener names values => ?_, fun name map => Code.run_restores ih _⟩
      cases listener with
      | tracker id => exact Workspace.react_restores ih id names
      | host name => exact Code.run_restores ih _

namespace Workspace

variable {w w' : Workspace}

/-- No batch is open, nothing is left to tell, and no tracker is announcing. -/
structure Calm (w : Workspace) : Prop where
  outside (s : Nat) : (w.storeAt s).batchDepth = 0
  told (s : Nat) : (w.storeAt s).pending = []
  quiet (t : Nat) : (w.trackerAt t).isAnnouncing = false

theorem Restored.calm (restored : w.Restored w') (calm : w.Calm) : w'.Calm where
  outside s := (restored.depth s).trans (calm.outside s)
  told s := restored.settled s (fun _ => calm.told s) ((restored.depth s).trans (calm.outside s))
  quiet t := (restored.announcing t).trans (calm.quiet t)

theorem Calm.record_eq (calm : w.Calm) (s : Nat) (names : List String) :
    (w.storeAt s).record names = (Names.distinct names, w.storeAt s) := by
  rw [Store.record, if_pos (calm.outside s)]

theorem Calm.reactsTo_eq (calm : w.Calm) (t : Nat) (names : List String) :
    (w.trackerAt t).reactsTo names = (w.trackerAt t).conditions.affectedBy names := by
  rw [Tracker.reactsTo, calm.quiet, if_neg Bool.false_ne_true]

end Workspace

/-- However the code of a host ends, each store has as many open batches as before, and trackers
    that were not announcing are not announcing. If no batch was open, every store goes on telling
    of changes, and every tracker goes on reacting to them. -/
theorem Host.run_restored (host : Host) (depth : Nat) (code : Code) (w : Workspace)
    {result : Except Fault Unit} {after : Workspace}
    (ran : code.run (host.hooks depth) w = (result, after)) :
    w.Restored after ∧ (w.Calm → after.Calm ∧
      (∀ s names, (after.storeAt s).record names = (Names.distinct names, after.storeAt s)) ∧
      ∀ t names, (after.trackerAt t).reactsTo names =
        (after.trackerAt t).conditions.affectedBy names) := by
  have restored := code.run_restores (host.hooks_restore depth) w
  rw [ran] at restored
  refine ⟨restored, fun calm => ?_⟩
  have still := restored.calm calm
  exact ⟨still, still.record_eq, still.reactsTo_eq⟩

/-- A host whose functions fail whenever they are called. -/
def failingHost : Host where
  changed _ _ _ := .fail (.host { kind := "RuntimeError", message := "told" })
  shown _ _ := .fail (.host { kind := "RuntimeError", message := "shown" })

def petThere : Workspace where
  schemas := [("pet", Workspace.petForm)]
  stores := [(0, { values := [("pet", .str "yes"), ("petName", .str "Rex")] })]

/-- The form listens, and so does somebody else. In two batches, one in the other, the pet goes,
    and then something fails. -/
def petGoes : Code :=
  .perform (.track "pet") rfl fun _ => .perform .start rfl fun _ =>
    .perform (.subscribe "a" "alarm" [] 0) rfl fun _ =>
      .batch 0 (.write 0 [("pet", .str "no")]
        (.batch 0 (.fail (.host { kind := "RuntimeError", message := "inside" })) .done)) .done

theorem petThere_calm : petThere.Calm := by
  have idle (t : Nat) : petThere.trackerAt t = default := rfl
  have store (s : Nat) :
      (petThere.storeAt s).batchDepth = 0 ∧ (petThere.storeAt s).pending = [] := by
    by_cases first : 0 = s
    · subst first
      exact ⟨rfl, rfl⟩
    · have absent : petThere.storeAt s = default := if_neg first
      rw [absent]
      exact ⟨rfl, rfl⟩
  exact ⟨fun s => (store s).1, fun s => (store s).2, fun t => by rw [idle]; rfl⟩

/-- What is removed with the pet is told of, which fails once more. -/
theorem petGoes_restored :
    (petGoes.run (failingHost.hooks 3) petThere).1 =
        .error (.host { kind := "RuntimeError", message := "told" }) ∧
      ((petGoes.run (failingHost.hooks 3) petThere).2.storeAt 0).values = [("pet", .str "no")] ∧
      petThere.Calm ∧ (petGoes.run (failingHost.hooks 3) petThere).2.Calm := by
  have restored := failingHost.run_restored 3 petGoes petThere rfl
  exact ⟨rfl, rfl, petThere_calm, (restored.2 petThere_calm).1⟩

end Formwork
