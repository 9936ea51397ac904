import Formwork.Workspace.Visibility

/-! # Sessions

One form over one store: its values, which of its fields are shown, and whether what is
filled in is acceptable.
-/

namespace Formwork.Workspace

variable (hooks : Hooks)

/-- The ruleset of a schema, or why there is none. -/
def compileRules (options : CompileOptions) (schema : Schema) : Effect Ruleset := do
  modify (·.addNotices (Ruleset.compileNotices options schema))
  match Ruleset.compile options schema with
  | .ok rules => return rules
  | .error error => throw (.pattern error)

def createSession (shared : SharedSchema) (options : CompileOptions) (store : Nat) :
    Effect Session := do
  let rules ← compileRules options shared.schema
  let tracker ← createTracker hooks store shared.schema.fields
  startTracker tracker
  return { shared, rules, options, store, tracker }

/-- A session over a new store with some values. -/
def openSession (shared : SharedSchema) (options : CompileOptions) (initial : Entries Value) :
    Effect Session := do
  let store := (← get).stores.fresh
  modify (·.updateStore store fun _ => { values := initial })
  createSession hooks shared options store

/-- A session over a store that is there, after writing some values to it. -/
def joinSession (shared : SharedSchema) (options : CompileOptions) (store : Nat)
    (initial : Entries Value) : Effect Session := do
  if !initial.isEmpty then setValues hooks store initial
  createSession hooks shared options store

/-- Give a session another schema. The answer is whether it is another one. The old tracker
    stops, and the new schema counts, before the new schema is compiled. -/
def setSchema (id : Nat) (shared : SharedSchema) : Effect Bool := do
  let session := (← get).sessionAt id
  if shared.isSame session.shared then return false
  modify (·.addNotices [.schemaChanged shared.schema.title])
  stopTracker session.tracker
  modify (·.updateSession id fun session => { session with shared })
  let rules ← compileRules session.options shared.schema
  modify (·.updateSession id fun session => { session with rules })
  let tracker ← createTracker hooks session.store shared.schema.fields
  startTracker tracker
  modify (·.updateSession id fun session => { session with tracker })
  return true

/-- Note what a validation found on its way, and answer its outcome. -/
def conclude (found : Findings) : Effect Outcome := do
  modify (·.addNotices found.notices)
  modify fun workspace => { workspace with
    events := workspace.events ++ found.calls.map .called }
  return found.outcome

/-- Validate the current values, without waiting for asynchronous validators. -/
def validateLocal (session : Session) : Effect Outcome := do
  let workspace ← get
  conclude (session.rules.validateLocal (workspace.valuesOf session)
    (some (workspace.visibilityOf session)))

def validate (session : Session) : Effect Outcome := do
  let workspace ← get
  conclude (session.rules.validate (workspace.valuesOf session)
    (some (workspace.visibilityOf session)))

/-- The current values without those of hidden fields. -/
def payload (workspace : Workspace) (session : Session) : Entries Value :=
  (workspace.valuesOf session).filter fun entry =>
    isShown (some (workspace.visibilityOf session)) entry.1

/-- Validate and, if nothing was found wanting, hand over the payload. -/
def submit (session : Session) : Effect (Outcome × Option (Entries Value)) := do
  let outcome ← validate session
  if outcome.valid then return (outcome, some (payload (← get) session))
  modify (·.addNotices [.submitBlocked outcome.errorFields])
  return (outcome, none)

/-- The fields of a session that are shown, in the order of the ruleset. -/
def visibleFields (workspace : Workspace) (session : Session) : List String :=
  session.rules.fieldNames.filter (isShown (some (workspace.visibilityOf session)))

end Formwork.Workspace
