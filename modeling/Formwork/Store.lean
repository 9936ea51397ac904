import Formwork.Names
import Formwork.Value.Equality

/-! # Stores

A store holds the values of a form and knows who listens to their changes. Changes that
are made while a batch is open wait until the outermost batch is closed.
-/

namespace Formwork

/-- Who listens to the changes of a store. -/
inductive Listener where
  /-- The tracker of a number. -/
  | tracker (id : Nat)
  /-- A function of the host, by its name. -/
  | host (name : String)
  deriving Repr, DecidableEq

/-- Values, and who listens to their changes. -/
structure Store where
  values : Entries Value := []
  /-- The listeners in the order of their subscription, repetitions included. -/
  listeners : List Listener := []
  /-- How many batches are open. -/
  batchDepth : Nat := 0
  /-- The fields that changed while a batch was open. -/
  pending : List String := []
  deriving Repr, Inhabited

namespace Store

/-- Whether writing a value changes a field: it had none, or one that differs. -/
def isChange (store : Store) (name : String) (value : Value) : Bool :=
  match store.values.get? name with
  | some old => old.differs value
  | none => true

/-- The fields that writing several values changes. -/
def changes (store : Store) (values : Entries Value) : List String :=
  Names.distinct ((values.filter fun entry => store.isChange entry.1 entry.2).map (·.1))

def write (store : Store) (values : Entries Value) : Store :=
  { store with values := store.values.putAll values }

/-- The fields among some names that have a value. -/
def present (store : Store) (names : List String) : List String :=
  Names.distinct (names.filter store.values.has)

def remove (store : Store) (names : List String) : Store :=
  { store with values := store.values.dropAll names }

/-- Take note of changed fields: which of them listeners must hear of at once, and the
    store, which keeps the others while a batch is open. -/
def record (store : Store) (names : List String) : List String × Store :=
  if store.batchDepth = 0 then (Names.distinct names, store)
  else ([], { store with pending := Names.distinct (store.pending ++ names) })

def openBatch (store : Store) : Store := { store with batchDepth := store.batchDepth + 1 }

/-- Close a batch: which fields listeners must hear of now, and the store. -/
def closeBatch (store : Store) : List String × Store :=
  if store.batchDepth ≤ 1 then (store.pending, { store with batchDepth := 0, pending := [] })
  else ([], { store with batchDepth := store.batchDepth - 1 })

def subscribe (store : Store) (listener : Listener) : Store :=
  { store with listeners := store.listeners ++ [listener] }

/-- Remove the first occurrence of a listener, if there is one. -/
def unsubscribe (store : Store) (listener : Listener) : Store :=
  { store with listeners := store.listeners.erase listener }

end Store

end Formwork
