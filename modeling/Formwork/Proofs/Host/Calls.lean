import Formwork.Proofs.Host.Recording
import Formwork.Proofs.Host.Code

/-! # Calls on a store

What a host can call on a store, and on the trackers and sessions over it. Its functions do the same
while they are told of something, to any depth, and may fail between any two calls.

Most of this has no say in who listens to the store. What does not depend on values, maps and notes
is therefore kept by all of it, if it is kept by the calls that have a say.
-/

namespace Formwork

open Effect Workspace

/-- Something that is called on a store or on what is over it. Subscriptions go by names, trackers
    and sessions by numbers. -/
inductive Call where
  /-- Subscribe a function of the host, under a name that no subscription had before. -/
  | subscribe (handle listener : String)
  | unsubscribe (handle : String)
  | track (fields : List Field)
  | start (tracker : Nat)
  | stop (tracker : Nat)
  | watch (tracker : Nat) (listener : String)
  | unwatch (listener : String)
  | openSession (shared : SharedSchema) (options : CompileOptions) (initial : Entries Value)
  | setSchema (session : Nat) (shared : SharedSchema)
  | close (session : Nat)
  | write (values : Entries Value)
  | clear (names : List String) (telling : Bool)
  | publish (names : List String)
  | openBatch
  | closeBatch

namespace Call

/-- What is answered. -/
inductive Reply where
  | done
  | flag (value : Bool)
  /-- The number of a new tracker or session. -/
  | number (id : Nat)
  /-- The fields whose values were removed. -/
  | removed (names : List String)

/-- Whether a call has no say in who listens. A tracker that has been made does not listen yet. -/
def isCalm : Call → Bool
  | .track _ | .watch _ _ | .unwatch _ | .write _ | .clear _ _ | .publish _ | .openBatch
  | .closeBatch => true
  | _ => false

/-- Whether a call leaves it to others which subscriptions there are. -/
def sparesSubscriptions : Call → Bool
  | .subscribe _ _ | .unsubscribe _ => false
  | _ => true

/-- Whether a call leaves it to others which trackers listen, and which sessions there are. -/
def sparesTrackers : Call → Bool
  | .start _ | .stop _ | .openSession .. | .setSchema _ _ | .close _ => false
  | _ => true

def perform (hooks : Hooks) (s : Nat) : Call → Effect Reply
  | .subscribe handle listener => do
      if (← get).subscriptions.has handle then return .flag false
      modify ({ · with store := s })
      Workspace.subscribe handle listener [] 0
      return .flag true
  | .unsubscribe handle => do Workspace.unsubscribe handle; return .done
  | .track fields => do return .number (← createTracker hooks s fields)
  | .start tracker => do startTracker tracker; return .done
  | .stop tracker => do stopTracker tracker; return .done
  | .watch tracker listener => do Workspace.watch tracker listener [] 0; return .done
  | .unwatch listener => do Workspace.unwatch listener; return .done
  | .openSession shared options initial => do
      let session ← joinSession hooks shared options s initial
      let id := (← get).sessions.fresh
      modify (·.putSession id session)
      return .number id
  | .setSchema session shared => do return .flag (← Workspace.setSchema hooks session shared)
  | .close session => do
      stopTracker ((← get).sessionAt session).tracker
      return .done
  | .write values => do setValues hooks s values; return .done
  | .clear names telling => do return .removed (← Workspace.clear hooks s names telling)
  | .publish names => do record hooks s names; return .done
  | .openBatch => do modify (·.updateStore s (·.openBatch)); return .done
  | .closeBatch => do Workspace.closeBatch hooks s; return .done

end Call

/-- The second workspace differs from the first in what belongs to the host alone. -/
structure Workspace.Apart (w w' : Workspace) : Prop where
  stores : w'.stores = w.stores
  trackers : w'.trackers = w.trackers
  sessions : w'.sessions = w.sessions
  subscriptions : w'.subscriptions = w.subscriptions

/-- What a function of a host does, step by step. How it goes on can depend on what came of it until
    then, a fault included, and on everything else there is. -/
inductive Routine where
  | done
  | fail (fault : Fault)
  /-- Change what belongs to the host alone. -/
  | own (change : Workspace → Workspace) (apart : ∀ w : Workspace, w.Apart (change w))
      (next : Workspace → Routine)
  | make (call : Call) (next : Except Fault Call.Reply → Workspace → Routine)

namespace Routine

def run (hooks : Hooks) (s : Nat) : Routine → Effect Unit
  | .done => pure ()
  | .fail fault => throw fault
  | .own change _ next => fun w => run hooks s (next (change w)) (change w)
  | .make call next => fun w =>
      run hooks s (next (call.perform hooks s w).1 (call.perform hooks s w).2)
        (call.perform hooks s w).2

/-- Every call that the routine may come to is allowed. -/
def All (allowed : Call → Prop) : Routine → Prop
  | .done | .fail _ => True
  | .own _ _ next => ∀ w, (next w).All allowed
  | .make call next => allowed call ∧ ∀ reply w, (next reply w).All allowed

/-- The routine merely takes notes, and returns. -/
def Returns : Routine → Prop
  | .done => True
  | .own _ _ next => ∀ w, (next w).Returns
  | .fail _ | .make _ _ => False

end Routine

/-- The functions of a host: what they do when they are told of changed fields, or of a map. -/
structure HostFunctions where
  changed : String → List String → Entries Value → Routine
  shown : String → Visibility → Routine

namespace HostFunctions

/-- What happens when a listener is called, down to a depth: a tracker reacts, and a function of the
    host follows its routine. -/
def hooks (functions : HostFunctions) (s : Nat) : Nat → Hooks
  | 0 => { changed := fun _ _ _ => throw .tooDeep, shown := fun _ _ => throw .tooDeep }
  | depth + 1 =>
      { changed := fun listener names values => match listener with
          | .tracker id => react (functions.hooks s depth) id names
          | .host name => (functions.changed name names values).run (functions.hooks s depth) s
        shown := fun name map => (functions.shown name map).run (functions.hooks s depth) s }

/-- Every call that a function may come to is allowed. -/
structure All (functions : HostFunctions) (allowed : Call → Prop) : Prop where
  changed (name : String) (names : List String) (values : Entries Value) :
    (functions.changed name names values).All allowed
  shown (name : String) (map : Visibility) : (functions.shown name map).All allowed

/-- The functions merely take notes, and return. -/
structure Return (functions : HostFunctions) : Prop where
  changed (name : String) (names : List String) (values : Entries Value) :
    (functions.changed name names values).Returns
  shown (name : String) (map : Visibility) : (functions.shown name map).Returns

end HostFunctions

/-! ## What holds whatever values and maps become -/

namespace Effect

variable {α β : Type} {holds : Workspace → Prop}

/-- However a computation ends, it keeps what held. -/
def Keeps (holds : Workspace → Prop) (action : Effect α) : Prop :=
  ∀ w, holds w → holds (action w).2

namespace Keeps

theorem pure (answer : α) : Keeps holds (Pure.pure answer : Effect α) := fun _ => id

theorem fail (fault : Fault) : Keeps holds (throw fault : Effect α) := fun _ => id

theorem changing {f : Workspace → Workspace} (h : ∀ w, holds w → holds (f w)) :
    Keeps holds (modify f : Effect Unit) := h

theorem bind {first : Effect α} {next : α → Effect β} (h : Keeps holds first)
    (rest : ∀ answer, Keeps holds (next answer)) : Keeps holds (first >>= next) :=
  fun w held => snd_bind (h w held) rest

theorem get_bind {next : Workspace → Effect α} (h : ∀ w, Keeps holds (next w)) :
    Keeps holds ((get : Effect Workspace) >>= next) := fun w => h w w

theorem answering {first : Effect α} (h : Keeps holds first) (f : α → β) :
    Keeps holds (first >>= fun answer => Pure.pure (f answer)) := h.bind fun _ => .pure _

theorem discard {first : Effect α} (h : Keeps holds first) : Keeps holds (discard first) :=
  h.answering _

theorem ensuring {action : Effect α} (h : Keeps holds action) {f : Workspace → Workspace}
    (after : ∀ w, holds w → holds (f w)) : Keeps holds (action.ensuring f) :=
  fun w held => after _ (h w held)

theorem orFault (fault : Fault) (value : Option α) : Keeps holds (Effect.orFault fault value) := by
  cases value with
  | none => exact .fail fault
  | some value => exact .pure value

end Keeps

end Effect

/-- Something that holds of a workspace whatever becomes of values, maps and notes, and whoever
    listens to trackers. It goes on to hold when a tracker is made. -/
structure Unmoved (holds : Workspace → Prop) : Prop where
  store {w : Workspace} (s : Nat) (f : Store → Store)
    (listeners : (f (w.storeAt s)).listeners = (w.storeAt s).listeners) :
    holds w → holds (w.updateStore s f)
  tracker {w : Workspace} (t : Nat) (f : Tracker → Tracker)
    (store : (f (w.trackerAt t)).store = (w.trackerAt t).store)
    (isActive : (f (w.trackerAt t)).isActive = (w.trackerAt t).isActive) :
    holds w → holds (w.updateTracker t f)
  create {w : Workspace} (s : Nat) (fields : List Field) :
    holds w → holds (w.updateTracker w.trackers.fresh fun _ => Tracker.ofFields s fields)
  apart {w w' : Workspace} (apart : w.Apart w') : holds w → holds w'

/-- Whoever is called keeps what held. -/
structure Hooks.Retain (hooks : Hooks) (holds : Workspace → Prop) : Prop where
  changed (listener : Listener) (names : List String) (values : Entries Value) :
    Keeps holds (hooks.changed listener names values)
  shown (listener : String) (map : Visibility) : Keeps holds (hooks.shown listener map)

namespace Store

theorem listeners_record (store : Store) (names : List String) :
    (store.record names).2.listeners = store.listeners := by
  unfold record
  split <;> rfl

theorem listeners_closeBatch (store : Store) : store.closeBatch.2.listeners = store.listeners := by
  unfold closeBatch
  split <;> rfl

end Store

namespace Workspace

variable {hooks : Hooks} {holds : Workspace → Prop} {w : Workspace} {s : Nat}

theorem addNotices_apart (w : Workspace) (notices : List Notice) :
    w.Apart (w.addNotices notices) := ⟨rfl, rfl, rfl, rfl⟩

theorem callListeners_keeps (retain : hooks.Retain holds) (store : Nat) (names : List String)
    (listeners : List Listener) : Keeps holds (callListeners hooks store names listeners) := by
  induction listeners with
  | nil => exact .pure ()
  | cons listener rest ih =>
      exact .get_bind fun w => (retain.changed listener names _).bind fun _ => ih

theorem notify_keeps (retain : hooks.Retain holds) (store : Nat) (names : List String) :
    Keeps holds (notify hooks store names) := by
  unfold notify
  split
  · exact .get_bind fun w => callListeners_keeps retain store names _
  · exact .pure ()

theorem callWatchers_keeps (retain : hooks.Retain holds) (map : Visibility)
    (listeners : List String) : Keeps holds (callWatchers hooks map listeners) := by
  induction listeners with
  | nil => exact .pure ()
  | cons listener rest ih => exact (retain.shown listener map).bind fun _ => ih

variable (unmoved : Unmoved holds) (retain : hooks.Retain holds)

include unmoved

theorem without_retained (names : List String) (held : holds w) : holds (w.without s names) := by
  have removed := unmoved.store s (·.remove ((w.storeAt s).present names)) rfl held
  unfold without
  dsimp only
  split
  · exact removed
  · exact unmoved.apart (addNotices_apart _ _) removed

theorem afterPasses_retained (t : Nat) (affected : List String) (held : holds w) :
    holds (w.afterPasses s t affected) := by
  have removed := unmoved.store s (·.remove (w.cycleAt s t affected).cleared) rfl held
  exact unmoved.tracker t _ rfl rfl (unmoved.apart (addNotices_apart _ _) removed)

include retain

theorem record_keeps (store : Nat) (names : List String) :
    Keeps holds (record hooks store names) := by
  intro w held
  have recorded := unmoved.store store (fun _ => ((w.storeAt store).record names).2)
    (Store.listeners_record _ names) held
  rw [record_apply]
  exact notify_keeps retain store _ _ recorded

theorem setValues_keeps (store : Nat) (values : Entries Value) :
    Keeps holds (setValues hooks store values) := by
  intro w held
  rw [setValues_apply]
  exact record_keeps unmoved retain store _ _ (unmoved.store store (·.write values) rfl held)

theorem clear_keeps (store : Nat) (names : List String) (telling : Bool) :
    Keeps holds (clear hooks store names telling) := by
  intro w held
  have removed : holds (w.without store names) := without_retained unmoved names held
  rw [clear_apply]
  split
  · exact (record_keeps unmoved retain store _).answering _ _ removed
  · exact removed

theorem closeBatch_keeps (store : Nat) : Keeps holds (closeBatch hooks store) := by
  intro w held
  rw [closeBatch_apply]
  exact notify_keeps retain store _ _
    (unmoved.store store (fun _ => (w.storeAt store).closeBatch.2) (Store.listeners_closeBatch _)
      held)

/-! ## Trackers -/

theorem runCycle_keeps (t : Nat) (affected : List String) :
    Keeps holds (runCycle hooks t affected) := by
  intro w held
  have passed : holds (w.afterPasses (w.trackerAt t).store t affected) :=
    afterPasses_retained unmoved t affected held
  rw [runCycle_apply hooks rfl]
  split
  · exact passed
  · refine ((record_keeps unmoved retain _ _).ensuring fun w => ?_).answering _ _ ?_
    · exact unmoved.tracker t _ rfl rfl
    · exact unmoved.tracker t _ rfl rfl passed

theorem react_keeps (t : Nat) (names : List String) : Keeps holds (react hooks t names) := by
  intro w held
  rw [react_apply]
  split
  · exact held
  · refine (runCycle_keeps unmoved retain t _).bind (fun answer => ?_) w held
    unfold tellWatchers
    split
    · exact (Keeps.changing fun w => unmoved.apart (addNotices_apart w _)).bind fun _ =>
        .get_bind fun w => callWatchers_keeps retain _ _
    · exact .pure ()

theorem createTracker_retained (fields : List Field)
    (made : holds (w.updateTracker w.trackers.fresh fun _ => Tracker.ofFields s fields)) :
    holds (createTracker hooks s fields w).2 := by
  rw [createTracker_apply]
  exact (runCycle_keeps unmoved retain _ _).discard.answering _ _ made

end Workspace

/-- Something that also goes on to hold when a tracker begins to listen to its store or ceases to,
    and whatever sessions there are. -/
structure Switchable (holds : Workspace → Prop) : Prop extends Unmoved holds where
  start {w : Workspace} (t : Nat) (idle : (w.trackerAt t).isActive = false) :
    holds w → holds (w.started t)
  stop {w : Workspace} (t : Nat) (active : (w.trackerAt t).isActive = true) :
    holds w → holds (w.stopped t)
  session {w : Workspace} (id : Nat) (session : Session) :
    holds w → holds (w.putSession id session)

namespace Workspace

variable {hooks : Hooks} {holds : Workspace → Prop}

theorem compileRules_keeps (unmoved : Unmoved holds) (options : CompileOptions) (schema : Schema) :
    Keeps holds (compileRules options schema) := by
  intro w held
  rw [compileRules_apply]
  exact unmoved.apart (addNotices_apart w _) held

variable (switchable : Switchable holds)

include switchable

theorem startTracker_keeps (t : Nat) : Keeps holds (startTracker t) := by
  intro w held
  rw [startTracker_apply]
  split
  · exact held
  next idle => exact switchable.start t (Bool.not_eq_true _ ▸ idle) held

theorem stopTracker_keeps (t : Nat) : Keeps holds (stopTracker t) := by
  intro w held
  rw [stopTracker_apply]
  split
  next active => exact switchable.stop t active held
  · exact held

variable (retain : hooks.Retain holds)

include retain

theorem createTracker_keeps (s : Nat) (fields : List Field) :
    Keeps holds (createTracker hooks s fields) := fun _ held =>
  createTracker_retained switchable.toUnmoved retain fields (switchable.create s fields held)

theorem joinSession_keeps (shared : SharedSchema) (options : CompileOptions) (s : Nat)
    (initial : Entries Value) : Keeps holds (joinSession hooks shared options s initial) := by
  have created : Keeps holds (createSession hooks shared options s) :=
    (compileRules_keeps switchable.toUnmoved _ _).bind fun rules =>
      (createTracker_keeps switchable retain s _).bind fun t =>
        (startTracker_keeps switchable t).answering _
  unfold joinSession
  split
  · exact (setValues_keeps switchable.toUnmoved retain s initial).bind fun _ => created
  · exact created

theorem setSchema_keeps (id : Nat) (shared : SharedSchema) :
    Keeps holds (setSchema hooks id shared) := by
  have given (f : Session → Session) :
      Keeps holds (modify (·.updateSession id f) : Effect Unit) := fun w =>
    switchable.session id (f (w.sessionAt id))
  have noted : Keeps holds (modify (·.addNotices [.schemaChanged shared.schema.title]) :
      Effect Unit) := fun w => switchable.apart (addNotices_apart w _)
  refine .get_bind fun w => ?_
  dsimp only
  split
  · exact .pure false
  refine noted.bind fun _ => (stopTracker_keeps switchable _).bind fun _ => (given _).bind fun _ =>
    (compileRules_keeps switchable.toUnmoved _ _).bind fun rules => (given _).bind fun _ => ?_
  exact (createTracker_keeps switchable retain _ _).bind fun t =>
    (startTracker_keeps switchable t).bind fun _ => (given _).answering _

end Workspace

/-! ## Calls and functions -/

open Workspace

variable {hooks : Hooks} {holds : Workspace → Prop}

theorem Unmoved.calm (unmoved : Unmoved holds) (retain : hooks.Retain holds) {call : Call}
    (calm : call.isCalm) (s : Nat) : Keeps holds (call.perform hooks s) := by
  cases call with
  | track fields =>
      exact .answering (fun w held => createTracker_retained unmoved retain fields
        (unmoved.create s fields held)) _
  | watch tracker listener =>
      refine .answering (fun w held => ?_) _
      have noted : (w.updateTracker tracker (·.watch listener)).Apart
          (Workspace.watch tracker listener [] 0 w).2 := ⟨rfl, rfl, rfl, rfl⟩
      exact unmoved.apart noted (unmoved.tracker tracker _ rfl rfl held)
  | unwatch listener =>
      refine .answering (.get_bind fun w => (Keeps.orFault _ _).bind fun tracker => ?_) _
      exact .changing fun w => unmoved.tracker tracker _ rfl rfl
  | write values => exact (setValues_keeps unmoved retain s values).answering _
  | clear names telling => exact (clear_keeps unmoved retain s names telling).answering _
  | publish names => exact (record_keeps unmoved retain s names).answering _
  | openBatch => exact (Keeps.changing fun w => unmoved.store s _ rfl).answering _
  | closeBatch => exact (closeBatch_keeps unmoved retain s).answering _
  | _ => cases calm

theorem Routine.all_true (routine : Routine) : routine.All fun _ => True := by
  induction routine with
  | done => trivial
  | fail fault => trivial
  | own change apart next ih => exact ih
  | make call next ih => exact ⟨trivial, ih⟩

theorem Switchable.spared (switchable : Switchable holds) (retain : hooks.Retain holds)
    {call : Call} (spares : call.sparesSubscriptions) (s : Nat) :
    Keeps holds (call.perform hooks s) := by
  cases call with
  | start t => exact (startTracker_keeps switchable t).answering _
  | stop t => exact (stopTracker_keeps switchable t).answering _
  | openSession shared options initial =>
      refine (joinSession_keeps switchable retain shared options s initial).bind fun session => ?_
      exact .get_bind fun w => (Keeps.changing fun _ => switchable.session _ _).answering _
  | setSchema id shared => exact (setSchema_keeps switchable retain id shared).answering _
  | close id => exact .get_bind fun w => (stopTracker_keeps switchable _).answering _
  | subscribe | unsubscribe => cases spares
  | _ => exact switchable.calm retain rfl s

theorem Routine.run_keeps (unmoved : Unmoved holds) {allowed : Call → Prop} {s : Nat}
    (each : ∀ call, allowed call → Keeps holds (call.perform hooks s)) {routine : Routine}
    (all : routine.All allowed) : Keeps holds (routine.run hooks s) := by
  intro w held
  induction routine generalizing w with
  | done => exact held
  | fail fault => exact held
  | own change apart next ih => exact ih _ (all _) _ (unmoved.apart (apart w) held)
  | make call next ih => exact ih _ _ (all.2 _ _) _ (each call all.1 w held)

/-- Whatever functions of the host do, to whichever depth, keeps what each of their calls keeps. -/
theorem HostFunctions.All.retain {functions : HostFunctions} {allowed : Call → Prop}
    (all : functions.All allowed) (unmoved : Unmoved holds) {s : Nat}
    (each : ∀ hooks : Hooks, hooks.Retain holds → ∀ call, allowed call →
      Keeps holds (call.perform hooks s)) (depth : Nat) :
    (functions.hooks s depth).Retain holds := by
  induction depth with
  | zero => exact ⟨fun _ _ _ => .fail _, fun _ _ => .fail _⟩
  | succ depth ih =>
      refine ⟨fun listener names values => ?_, fun name map => ?_⟩
      · cases listener with
        | tracker id => exact react_keeps unmoved ih id names
        | host name =>
            exact Routine.run_keeps unmoved (each _ ih) (all.changed name names values)
      · exact Routine.run_keeps unmoved (each _ ih) (all.shown name map)

end Formwork
