import Formwork.Ruleset.Compile
import Formwork.Steps.Sequence
import Formwork.Steps.Token
import Formwork.Store
import Formwork.Table
import Formwork.Visibility.Tracker

/-! # Workspaces

A workspace is what a host works with while forms are being filled in: stores, trackers,
sessions and a sequence of steps, and the functions that it has listening to them. What
the functions of a host do when they are called is given as scripts of actions.
-/

namespace Formwork

/-- A schema as it is handed round. The one that a host keeps under a key is the same
    whenever it is handed round; one without a key is the same as no other. -/
structure SharedSchema where
  key : Option String := none
  schema : Schema
  deriving Inhabited

namespace SharedSchema

def isSame (a b : SharedSchema) : Bool := a.key.isSome && a.key == b.key

end SharedSchema

/-- One form over one store. -/
structure Session where
  shared : SharedSchema
  rules : Ruleset
  options : CompileOptions
  /-- The number of the store. -/
  store : Nat
  /-- The number of the tracker. -/
  tracker : Nat
  deriving Inhabited

/-- What a host does with the data of a completed form. -/
inductive Submission where
  /-- Nothing. -/
  | ignored
  /-- Take it. -/
  | accepted
  /-- Take it, and fail. -/
  | failing (fault : HostFault)
  deriving Repr, DecidableEq

/-- Something that a host does. -/
inductive Action where
  | get (name : String) (fallback : Value)
  | has (name : String)
  | set (name : String) (value : Value)
  | setMany (values : Entries Value)
  | clear (names : List String) (telling : Bool)
  | publish (names : List String)
  | openBatch
  /-- Leave the innermost batch, if need be by failing. -/
  | closeBatch (failing : Bool)
  /-- Have a listener called at changes; `script` is what its first calls do. -/
  | subscribe (subscription listener : String) (script : List Action) (times : Nat)
  | unsubscribe (subscription : String)
  | fail (fault : HostFault)
  | track (schema : String)
  | start
  | stop
  | watch (listener : String) (script : List Action) (times : Nat)
  | unwatch (listener : String)
  | isVisible (name : String)
  | openSession (schema name : String) (external : Bool) (initial : Entries Value)
  | use (name : String)
  | setSchema (schema : String) (copied : Bool)
  | sessionSet (name : String) (value : Value)
  | sessionSetMany (values : Entries Value)
  | sessionWatch (listener : String) (script : List Action) (times : Nat)
  | validateLocal
  | validate
  | payload
  | submit
  | describe
  | close
  | begin (schema : String) (submission : Submission)
  | advance (data : Entries Value)
  | retreat
  | openStep
  | submitStep
  | snapshot
  /-- Take up a state again; without one that of the current sequence. -/
  | restore (schema : String) (state : Option Value) (submission : Submission)
  | sign
  /-- Take up the state of the signed token, after a while. -/
  | resume (schema : String) (later : Binary64) (limit : Option Value)
  deriving Inhabited

/-- A sequence of steps that is under way. -/
structure StepRun where
  /-- The key of the form's schema. -/
  key : String
  submission : Submission
  sequence : StepSequence

namespace StepRun

/-- The form of the current step as it is handed round: a single step is the form itself. -/
def current (run : StepRun) : SharedSchema :=
  { key := if run.sequence.schema.isMultiStep then none else some run.key
    schema := run.sequence.current }

end StepRun

/-- What a function of the host does when it is called: a script, for a number of calls. -/
structure Script where
  actions : List Action := []
  calls : Nat := 0
  deriving Inhabited

/-- Something that a host notices. -/
inductive Event where
  /-- A listener of a store was told of changed fields. -/
  | changed (listener : String) (names : List String) (values : Entries Value)
  /-- A listener of a tracker was told of a new map. -/
  | shown (listener : String) (map : Visibility)
  | called (call : ValidatorCall)
  /-- The data of a completed form was handed in. -/
  | submitted (data : Entries Value)

/-- Why an action fails. -/
inductive Fault where
  | host (fault : HostFault)
  /-- The form was completed before. -/
  | completed
  /-- A state that is none. -/
  | invalidState (issues : List Issue)
  | pattern (error : Pattern.PatternError)
  /-- A name that stands for nothing. -/
  | unknownName (name : String)
  /-- No batch is open. -/
  | noBatch
  /-- There is no tracker, session or sequence of steps to act on. -/
  | nothingOpen
  /-- Callbacks call one another too deeply. -/
  | tooDeep

/-- A listener of the host on a store. -/
structure Subscription where
  store : Nat
  listener : Listener
  isClosed : Bool := false

/-- What a host works with. -/
structure Workspace where
  schemas : Entries Schema := []
  options : CompileOptions := {}
  now : Binary64 := .zero
  /-- The key that states are signed with. -/
  key : List UInt8 := []
  stores : Table Store := []
  trackers : Table Tracker := []
  /-- The number of the store in use. -/
  store : Nat := 0
  tracker : Option Nat := none
  sessions : Table Session := []
  /-- The numbers of the sessions, by the names that the host gives them. -/
  sessionNames : Entries Nat := []
  /-- The number of the session in use. -/
  session : Option Nat := none
  run : Option StepRun := none
  token : Option String := none
  subscriptions : Entries Subscription := []
  /-- What listeners of stores do, by their names. -/
  scripts : Entries Script := []
  /-- What listeners of trackers do, by their names. -/
  watchScripts : Entries Script := []
  /-- The trackers that listeners were last added to. -/
  watches : Entries Nat := []
  /-- The stores of the open batches, the innermost first. -/
  batches : List Nat := []
  events : List Event := []
  notices : List Notice := []

/-- A computation on a workspace that may fail; what it did until then stays done. -/
abbrev Effect (α : Type) := ExceptT Fault (StateM Workspace) α

namespace Effect

variable {α : Type}

/-- Run a computation and, whether it fails or not, change the workspace after it. -/
def ensuring (action : Effect α) (after : Workspace → Workspace) : Effect α :=
  fun workspace => let (result, workspace) := action workspace; (result, after workspace)

def orFault (fault : Fault) : Option α → Effect α
  | some value => pure value
  | none => throw fault

end Effect

/-- What listeners are called with: the way out of the library and back into it. -/
structure Hooks where
  /-- Tell a listener of a store of changed fields and the current values. -/
  changed : Listener → List String → Entries Value → Effect Unit
  /-- Tell a listener of a tracker of a new map. -/
  shown : String → Visibility → Effect Unit

namespace Workspace

def storeAt (workspace : Workspace) (id : Nat) : Store := workspace.stores.read id

def trackerAt (workspace : Workspace) (id : Nat) : Tracker := workspace.trackers.read id

def updateStore (workspace : Workspace) (id : Nat) (f : Store → Store) : Workspace :=
  { workspace with stores := workspace.stores.write id (f (workspace.storeAt id)) }

def updateTracker (workspace : Workspace) (id : Nat) (f : Tracker → Tracker) : Workspace :=
  { workspace with trackers := workspace.trackers.write id (f (workspace.trackerAt id)) }

/-- Put a session in the place of a number. -/
def putSession (workspace : Workspace) (id : Nat) (session : Session) : Workspace :=
  { workspace with sessions := workspace.sessions.write id session }

def addEvent (workspace : Workspace) (event : Event) : Workspace :=
  { workspace with events := workspace.events ++ [event] }

def addNotices (workspace : Workspace) (notices : List Notice) : Workspace :=
  { workspace with notices := workspace.notices ++ notices }

def sessionAt (workspace : Workspace) (id : Nat) : Session := workspace.sessions.read id

def updateSession (workspace : Workspace) (id : Nat) (f : Session → Session) : Workspace :=
  workspace.putSession id (f (workspace.sessionAt id))

/-- The map of a session. -/
def visibilityOf (workspace : Workspace) (session : Session) : Visibility :=
  (workspace.trackerAt session.tracker).map

def valuesOf (workspace : Workspace) (session : Session) : Entries Value :=
  (workspace.storeAt session.store).values

end Workspace

end Formwork
