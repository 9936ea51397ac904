import Formwork.Workspace.Basic

/-! # Changing values

Every change of a store's values goes through here, so that whoever listens to the store
hears of it: once, after the change, and when a batch is open after the batch.
-/

namespace Formwork.Workspace

variable (hooks : Hooks)

/-- Call listeners, one after the other, each with the values at that moment. -/
def callListeners (store : Nat) (names : List String) : List Listener → Effect Unit
  | [] => pure ()
  | listener :: rest => do
      hooks.changed listener names ((← get).storeAt store).values
      callListeners store names rest

/-- Tell the listeners that a store has now of changed fields, if there are any. -/
def notify (store : Nat) (names : List String) : Effect Unit := do
  if !names.isEmpty then callListeners hooks store names ((← get).storeAt store).listeners

/-- Take note of changed fields. -/
def record (store : Nat) (names : List String) : Effect Unit := do
  let (now, after) := ((← get).storeAt store).record names
  modify (·.updateStore store fun _ => after)
  notify hooks store now

def setValues (store : Nat) (values : Entries Value) : Effect Unit := do
  let changed := ((← get).storeAt store).changes values
  modify (·.updateStore store (·.write values))
  record hooks store changed

/-- Remove the values of fields, and tell of it or not. The answer is which fields had
    one. -/
def clear (store : Nat) (names : List String) (telling : Bool) : Effect (List String) := do
  let removed := ((← get).storeAt store).present names
  modify (·.updateStore store (·.remove removed))
  if !removed.isEmpty then modify (·.addNotices [.clearedValues (Names.sorted removed)])
  if telling then record hooks store removed
  return removed

def closeBatch (store : Nat) : Effect Unit := do
  let (now, after) := ((← get).storeAt store).closeBatch
  modify (·.updateStore store fun _ => after)
  notify hooks store now

end Formwork.Workspace
