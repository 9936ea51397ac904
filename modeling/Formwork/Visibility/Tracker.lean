import Formwork.Visibility.Cycle

/-! # Trackers

A tracker keeps the visibility of a form's fields in step with the values of a store.
-/

namespace Formwork

/-- The visibility of a form over a store. -/
structure Tracker where
  /-- The number of the store. -/
  store : Nat := 0
  conditions : Conditions := []
  map : Visibility := []
  /-- The functions of the host that hear of changes of visibility, by name. -/
  listeners : List String := []
  /-- Whether the tracker listens to its store. -/
  isActive : Bool := false
  /-- Whether the tracker is itself telling of removed values. -/
  isAnnouncing : Bool := false
  deriving Inhabited

namespace Tracker

/-- A tracker over a store, before its first cycle: all fields are shown. -/
def ofFields (store : Nat) (fields : List Field) : Tracker :=
  { store, conditions := Conditions.ofFields fields, map := Visibility.all fields }

def isVisible (tracker : Tracker) (name : String) : Bool := isShown (some tracker.map) name

/-- The conditional fields that a change of some fields makes the tracker evaluate: none
    while it is itself telling of removed values. -/
def reactsTo (tracker : Tracker) (changed : List String) : List String :=
  if tracker.isAnnouncing then [] else tracker.conditions.affectedBy changed

/-- The cycle that evaluates some conditional fields over values. -/
def cycle (tracker : Tracker) (affected : List String) (values : Entries Value) : Cycle :=
  Cycle.settle tracker.conditions { map := tracker.map, values, pending := affected }

def watch (tracker : Tracker) (listener : String) : Tracker :=
  { tracker with listeners := tracker.listeners ++ [listener] }

/-- Remove the first occurrence of a listener, if there is one. -/
def unwatch (tracker : Tracker) (listener : String) : Tracker :=
  { tracker with listeners := tracker.listeners.erase listener }

end Tracker

end Formwork
