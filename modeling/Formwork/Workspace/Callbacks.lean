import Formwork.Workspace.Actions

/-! # Callbacks

What happens when a listener is called: a tracker reacts, and a function of the host does
what its script says, which can call listeners again. How deeply they may call one another
is limited.
-/

namespace Formwork.Workspace

/-- Perform actions one after the other; the first that fails ends them. -/
def performAll (hooks : Hooks) : List Action → Effect Unit
  | [] => pure ()
  | action :: rest => do
      discard (perform hooks action)
      performAll hooks rest

/-- The actions of a script for its next call, and what is left of the script. -/
def nextCall (script : Script) : List Action × Script :=
  if script.calls = 0 then ([], script)
  else (script.actions, { script with calls := script.calls - 1 })

/-- Take the actions of the next call of a listener of stores. -/
def takeActions (listener : String) : Effect (List Action) := do
  let (actions, script) := nextCall (((← get).scripts.get? listener).getD {})
  modify fun workspace => { workspace with scripts := workspace.scripts.put listener script }
  return actions

/-- Take the actions of the next call of a listener of trackers. -/
def takeWatchActions (listener : String) : Effect (List Action) := do
  let (actions, script) := nextCall (((← get).watchScripts.get? listener).getD {})
  modify fun workspace => { workspace with
    watchScripts := workspace.watchScripts.put listener script }
  return actions

/-- What listeners do when they are called, down to a depth. -/
def callbacks : Nat → Hooks
  | 0 => { changed := fun _ _ _ => throw .tooDeep, shown := fun _ _ => throw .tooDeep }
  | depth + 1 =>
      { changed := fun listener names values => match listener with
          | .tracker id => react (callbacks depth) id names
          | .host name => do
              modify (·.addEvent (.changed name names values))
              performAll (callbacks depth) (← takeActions name)
        shown := fun name map => do
          modify (·.addEvent (.shown name map))
          performAll (callbacks depth) (← takeWatchActions name) }

/-- How deeply callbacks may call one another: trackers never need more than one level
    each, functions of the host have a thousand more. -/
def depthLimit (workspace : Workspace) : Nat := workspace.trackers.length + 1000

def act (action : Action) : Effect Result := do
  perform (callbacks (← get).depthLimit) action

end Formwork.Workspace
