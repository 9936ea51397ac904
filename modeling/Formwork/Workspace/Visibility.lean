import Formwork.Workspace.Changes

/-! # Keeping visibility

What a tracker does when values change: it runs a cycle, tells the listeners of the store
which values the cycle removed, and then, if the map is another one, tells its own
listeners.
-/

namespace Formwork.Workspace

variable (hooks : Hooks)

/-- Call the listeners of a tracker, one after the other, all with one map. -/
def callWatchers (map : Visibility) : List String → Effect Unit
  | [] => pure ()
  | listener :: rest => do
      hooks.shown listener map
      callWatchers map rest

/-- Run a cycle of a tracker over its store. Telling of removed values, the tracker does not
    listen to itself. The answer is the new map, and which of its fields it shows otherwise
    than the one before. -/
def runCycle (id : Nat) (affected : List String) : Effect (Visibility × List String) := do
  let tracker := (← get).trackerAt id
  let store := tracker.store
  let cycle := tracker.cycle affected ((← get).storeAt store).values
  modify (·.updateStore store (·.remove cycle.cleared))
  modify (·.addNotices cycle.notices)
  modify (·.updateTracker id fun t => { t with map := cycle.map })
  if !cycle.cleared.isEmpty then
    modify (·.updateTracker id fun t => { t with isAnnouncing := true })
    (record hooks store cycle.cleared).ensuring
      (·.updateTracker id fun t => { t with isAnnouncing := false })
  return (cycle.map, cycle.map.flipped tracker.map)

/-- A tracker hears of changed fields. -/
def react (id : Nat) (names : List String) : Effect Unit := do
  let affected := ((← get).trackerAt id).reactsTo names
  if !affected.isEmpty then
    let (map, flipped) ← runCycle hooks id affected
    if !flipped.isEmpty then
      modify (·.addNotices [.visibilityChanged (Names.sorted flipped)])
      callWatchers hooks map ((← get).trackerAt id).listeners

/-- A new tracker over a store, after its first cycle, which its listeners do not hear
    of. -/
def createTracker (store : Nat) (fields : List Field) : Effect Nat := do
  let id := (← get).trackers.fresh
  let tracker := Tracker.ofFields store fields
  modify (·.updateTracker id fun _ => tracker)
  discard (runCycle hooks id tracker.conditions.names)
  return id

def startTracker (id : Nat) : Effect Unit := do
  let tracker := (← get).trackerAt id
  if !tracker.isActive then
    modify (·.updateStore tracker.store (·.subscribe (.tracker id)))
    modify (·.updateTracker id fun t => { t with isActive := true })

def stopTracker (id : Nat) : Effect Unit := do
  let tracker := (← get).trackerAt id
  if tracker.isActive then
    modify (·.updateStore tracker.store (·.unsubscribe (.tracker id)))
    modify (·.updateTracker id fun t => { t with isActive := false })

end Formwork.Workspace
