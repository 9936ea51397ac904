import Formwork.Workspace.Sessions

/-! # Actions

What each action of a host does to a workspace, and what comes of it.
-/

namespace Formwork

/-- What comes of an action. -/
inductive Result where
  | done
  | flag (value : Bool)
  | value (value : Value)
  /-- The fields whose values were removed. -/
  | removed (names : List String)
  /-- The fields that a new tracker watches, and whether it is active. -/
  | tracking (watched : List String) (active : Bool)
  /-- A batch was left by failing, which it did not prevent. -/
  | leftByFailing
  | outcome (outcome : Outcome)
  | submission (outcome : Outcome) (payload : Option (Entries Value))
  | description (title : String) (fields visible : List String)
  | state (state : StepState)
  | token (token : String)

namespace Workspace

variable (hooks : Hooks)

/-! ## What is in use -/

def sharedSchema (key : String) : Effect SharedSchema := do
  let schema ← Effect.orFault (.unknownName key) ((← get).schemas.get? key)
  return { key := some key, schema }

def trackerInUse : Effect Nat := do Effect.orFault .nothingOpen (← get).tracker

def sessionInUse : Effect Nat := do Effect.orFault .nothingOpen (← get).session

def currentSession : Effect Session := do return (← get).sessionAt (← sessionInUse)

def currentRun : Effect StepRun := do Effect.orFault .nothingOpen (← get).run

/-- Take a session, and the store under it, into use. -/
def useSession (id : Nat) : Effect Unit :=
  modify fun workspace => { workspace with
    session := some id, store := (workspace.sessionAt id).store }

/-- Name a new session and take it into use. -/
def adoptSession (name : String) (session : Session) : Effect Unit := do
  let id := (← get).sessions.fresh
  modify (·.putSession id session)
  modify fun workspace => { workspace with
    sessionNames := workspace.sessionNames.put name id }
  useSession id

/-! ## Listening -/

/-- Scripts with that of a listener; the first script of a listener stays. -/
def withScript (scripts : Entries Script) (listener : String) (actions : List Action)
    (times : Nat) : Entries Script :=
  if scripts.has listener then scripts else scripts.put listener { actions, calls := times }

/-- Have a function of the host listen to the store in use. -/
def subscribe (subscription listener : String) (script : List Action) (times : Nat) :
    Effect Unit :=
  modify fun workspace =>
    let store := workspace.store
    let workspace := workspace.updateStore store (·.subscribe (.host listener))
    { workspace with
      scripts := withScript workspace.scripts listener script times
      subscriptions := workspace.subscriptions.put subscription
        { store, listener := .host listener } }

/-- Close a subscription; one that is closed stays as it is. -/
def unsubscribe (name : String) : Effect Unit := do
  let subscription ← Effect.orFault (.unknownName name) ((← get).subscriptions.get? name)
  if !subscription.isClosed then
    modify (·.updateStore subscription.store (·.unsubscribe subscription.listener))
    modify fun workspace => { workspace with
      subscriptions := workspace.subscriptions.put name { subscription with isClosed := true } }

/-- Have a function of the host listen to a tracker. -/
def watch (tracker : Nat) (listener : String) (script : List Action) (times : Nat) :
    Effect Unit :=
  modify fun workspace =>
    let workspace := workspace.updateTracker tracker (·.watch listener)
    { workspace with
      watchScripts := withScript workspace.watchScripts listener script times
      watches := workspace.watches.put listener tracker }

/-- Have a function of the host no longer listen to the tracker that it was last added
    to. -/
def unwatch (listener : String) : Effect Unit := do
  let tracker ← Effect.orFault (.unknownName listener) ((← get).watches.get? listener)
  modify (·.updateTracker tracker (·.unwatch listener))

/-! ## Batches -/

/-- Open a batch of the store in use. -/
def beginBatch : Effect Unit :=
  modify fun workspace =>
    let store := workspace.store
    { workspace.updateStore store (·.openBatch) with batches := store :: workspace.batches }

def endBatch : Effect Unit := do
  match (← get).batches with
  | [] => throw .noBatch
  | store :: rest =>
      modify fun workspace => { workspace with batches := rest }
      closeBatch hooks store

/-! ## Steps -/

/-- Hand the data of a completed form to the host. -/
def handIn (submission : Submission) (data : Entries Value) : Effect Unit := do
  match submission with
  | .ignored => pure ()
  | .accepted => modify (·.addEvent (.submitted data))
  | .failing fault =>
      modify (·.addEvent (.submitted data))
      throw (.host fault)

/-- Hand in the data of the current step. The answer is whether that completed the form. -/
def advance (data : Entries Value) : Effect Bool := do
  let run ← currentRun
  let sequence ← Effect.orFault .completed (run.sequence.advance? data)
  modify fun workspace => { workspace with run := some { run with sequence } }
  modify (·.addNotices [sequence.advanceNotice])
  if sequence.completed then handIn run.submission sequence.data
  return sequence.completed

/-- Go back one step. -/
def retreat : Effect Unit := do
  let run ← currentRun
  let sequence ← Effect.orFault .completed run.sequence.retreat?
  modify fun workspace => { workspace with run := some { run with sequence } }
  modify (·.addNotices run.sequence.retreatNotices)

/-- Open a session for the current step, with the data merged so far. -/
def openStep : Effect Session := do
  let run ← currentRun
  openSession hooks run.current (← get).options run.sequence.data

/-- Submit a session for the current step and, if nothing was found wanting, advance. -/
def submitStep (session : Session) : Effect Outcome := do
  let (outcome, payload) ← submit session
  if let some data := payload then discard (advance data)
  return outcome

/-- Put a sequence of steps under way. -/
def beginRun (key : String) (submission : Submission) (start : Schema → StepSequence) :
    Effect Unit := do
  let shared ← sharedSchema key
  let run := { key, submission, sequence := start shared.schema }
  modify fun workspace => { workspace with run := some run }

/-- A state that was given, or that of the sequence under way. -/
def stateOrCurrent : Option Value → Effect StepState
  | none => do return (← currentRun).sequence.snapshot
  | some document => do
      match StepState.ofValue (← get).now document with
      | .read state => return state
      | .refused issues => throw (.invalidState issues)

/-- Sign the state of the sequence under way, and keep the token. -/
def sign : Effect String := do
  let token := TokenScheme.standard.token (← get).key (← currentRun).sequence.snapshot
  modify fun workspace => { workspace with token := some token }
  return token

/-- The state of the token that was kept, if it is still good after a while. -/
def verifyLater (later : Binary64) (limit : Option Value) : Effect (Option StepState) := do
  modify fun workspace => { workspace with now := workspace.now.add later }
  let workspace ← get
  match workspace.token with
  | none => return none
  | some token =>
      modify (·.addNotices
        (TokenScheme.standard.verifyNotices workspace.key workspace.now limit token))
      return TokenScheme.standard.verify workspace.key workspace.now limit token

/-! ## All actions -/

def perform : Action → Effect Result
  | .get name fallback => do
      return .value ((((← get).storeAt (← get).store).values.get? name).getD fallback)
  | .has name => do return .flag (((← get).storeAt (← get).store).values.has name)
  | .set name value => do setValues hooks (← get).store [(name, value)]; return .done
  | .setMany values => do setValues hooks (← get).store values; return .done
  | .clear names telling => do return .removed (← clear hooks (← get).store names telling)
  | .publish names => do record hooks (← get).store names; return .done
  | .openBatch => do beginBatch; return .done
  | .closeBatch failing => do
      endBatch hooks
      return if failing then .leftByFailing else .done
  | .subscribe subscription listener script times => do
      subscribe subscription listener script times; return .done
  | .unsubscribe subscription => do unsubscribe subscription; return .flag true
  | .fail fault => throw (.host fault)
  | .track key => do
      let shared ← sharedSchema key
      let id ← createTracker hooks (← get).store shared.schema.fields
      modify fun workspace => { workspace with tracker := some id }
      let tracker := (← get).trackerAt id
      return .tracking tracker.conditions.watched tracker.isActive
  | .start => do
      startTracker (← trackerInUse)
      return .flag ((← get).trackerAt (← trackerInUse)).isActive
  | .stop => do
      stopTracker (← trackerInUse)
      return .flag ((← get).trackerAt (← trackerInUse)).isActive
  | .watch listener script times => do
      watch (← trackerInUse) listener script times; return .done
  | .unwatch listener => do unwatch listener; return .done
  | .isVisible name => do return .flag (((← get).trackerAt (← trackerInUse)).isVisible name)
  | .openSession key name external initial => do
      let shared ← sharedSchema key
      let workspace ← get
      let session ←
        if external then joinSession hooks shared workspace.options workspace.store initial
        else openSession hooks shared workspace.options initial
      adoptSession name session
      return .done
  | .use name => do
      useSession (← Effect.orFault (.unknownName name) ((← get).sessionNames.get? name))
      return .done
  | .setSchema key copied => do
      let shared ← sharedSchema key
      let shared := if copied then { shared with key := none } else shared
      return .flag (← setSchema hooks (← sessionInUse) shared)
  | .sessionSet name value => do
      setValues hooks (← currentSession).store [(name, value)]; return .done
  | .sessionSetMany values => do
      setValues hooks (← currentSession).store values; return .done
  | .sessionWatch listener script times => do
      watch (← currentSession).tracker listener script times; return .done
  | .validateLocal => do return .outcome (← validateLocal (← currentSession))
  | .validate => do return .outcome (← validate (← currentSession))
  | .payload => do return .value (.object (payload (← get) (← currentSession)))
  | .submit => do
      let (outcome, payload) ← submit (← currentSession)
      return .submission outcome payload
  | .describe => do
      let session ← currentSession
      return .description session.shared.schema.title session.rules.fieldNames
        (visibleFields (← get) session)
  | .close => do stopTracker (← currentSession).tracker; return .done
  | .begin key submission => do
      let now := (← get).now
      beginRun key submission fun schema => { schema, startedAt := now }
      return .done
  | .advance data => do return .flag (← advance data)
  | .retreat => do retreat; return .done
  | .openStep => do adoptSession "s" (← openStep hooks); return .done
  | .submitStep => do return .outcome (← submitStep (← currentSession))
  | .snapshot => do return .state (← currentRun).sequence.snapshot
  | .restore key state submission => do
      let state ← stateOrCurrent state
      beginRun key submission fun schema => StepSequence.restore schema state
      return .done
  | .sign => do return .token (← sign)
  | .resume key later limit => do
      match ← verifyLater later limit with
      | none => return .flag false
      | some state =>
          beginRun key .accepted fun schema => StepSequence.restore schema state
          return .flag true

end Workspace

end Formwork
