import Formwork.Proofs.Visibility.Cycle
import Formwork.Store
import Formwork.Visibility.Tracker

/-! # Forms

A form while it is filled in, apart from who looks on: a tracker that keeps its visibility,
and the store of its values. Each operation says what becomes of the two when the tracker is
the only one that listens to the store. A change is first recorded; then the tracker hears of
it, at once or at the end of the outermost batch.
-/

namespace Formwork

/-- The tracker that a listener is, if it is one. -/
def Listener.tracker? : Listener → Option Nat
  | .tracker id => some id
  | .host _ => none

/-- The trackers that listen to a store, repetitions included. -/
def Store.trackers (store : Store) : List Nat := store.listeners.filterMap Listener.tracker?

theorem Store.mem_trackers {store : Store} {t : Nat} (listens : .tracker t ∈ store.listeners) :
    t ∈ store.trackers :=
  List.mem_filterMap.mpr ⟨_, listens, rfl⟩

theorem Tracker.reactsTo_quiet {tracker : Tracker} (quiet : tracker.isAnnouncing = false)
    (names : List String) : tracker.reactsTo names = tracker.conditions.affectedBy names := by
  simp [reactsTo, quiet]

theorem Store.record_outside {store : Store} (outside : store.batchDepth = 0)
    (names : List String) : store.record names = (Names.distinct names, store) := by
  rw [record, if_pos outside]

theorem Store.record_inside {store : Store} (inside : store.batchDepth ≠ 0)
    (names : List String) : store.record names =
      ([], { store with pending := Names.distinct (store.pending ++ names) }) := by
  rw [record, if_neg inside]

theorem Store.record_nil (store : Store) : (store.record []).1 = [] := by
  unfold record
  split <;> rfl

theorem Store.closeBatch_last {store : Store} (last : store.batchDepth ≤ 1) :
    store.closeBatch = (store.pending, { store with batchDepth := 0, pending := [] }) := by
  rw [closeBatch, if_pos last]

theorem Store.closeBatch_inner {store : Store} (inner : ¬store.batchDepth ≤ 1) :
    store.closeBatch = ([], { store with batchDepth := store.batchDepth - 1 }) := by
  rw [closeBatch, if_neg inner]

theorem Store.record_keeps (store : Store) (names : List String) :
    (store.record names).2.values = store.values ∧
      (store.record names).2.trackers = store.trackers ∧
      (store.record names).2.batchDepth = store.batchDepth := by
  unfold Store.record
  split <;> exact ⟨rfl, rfl, rfl⟩

theorem Store.closeBatch_keeps (store : Store) :
    store.closeBatch.2.values = store.values ∧
      store.closeBatch.2.trackers = store.trackers ∧
      store.closeBatch.2.batchDepth = store.batchDepth - 1 := by
  unfold Store.closeBatch
  split
  · refine ⟨rfl, rfl, ?_⟩
    show 0 = store.batchDepth - 1
    omega
  · exact ⟨rfl, rfl, rfl⟩

/-- A form while it is filled in. -/
structure Form where
  tracker : Tracker
  store : Store

namespace Form

/-- The form after a cycle that evaluates some conditional fields. What it removes is
    recorded as a change; the tracker does not listen to itself. -/
def cycle (form : Form) (affected : List String) : Form :=
  let cycle := form.tracker.cycle affected form.store.values
  let store := form.store.remove cycle.cleared
  { tracker := { form.tracker with map := cycle.map }
    store := if cycle.cleared.isEmpty then store else (store.record cycle.cleared).2 }

/-- The form after its tracker has heard of changed fields. -/
def hear (form : Form) (names : List String) : Form :=
  if (form.tracker.reactsTo names).isEmpty then form
  else form.cycle (form.tracker.reactsTo names)

/-- What listeners of the tracker hear of when the form becomes another: its map, if that
    shows any field otherwise. -/
def tells (form later : Form) : List (String × Visibility) :=
  if (Visibility.flipped later.tracker.map form.tracker.map).isEmpty then []
  else form.tracker.listeners.map fun listener => (listener, later.tracker.map)

/-- What listeners of the tracker hear of when it hears of changed fields. -/
def told (form : Form) (names : List String) : List (String × Visibility) :=
  if (form.tracker.reactsTo names).isEmpty then []
  else form.tells (form.cycle (form.tracker.reactsTo names))

/-- The form after taking note of changed fields. -/
def record (form : Form) (names : List String) : Form :=
  hear { form with store := (form.store.record names).2 } (form.store.record names).1

def write (form : Form) (values : Entries Value) : Form :=
  record { form with store := form.store.write values } (form.store.changes values)

/-- The form after removing the values of some fields. -/
def clear (form : Form) (names : List String) : Form :=
  record { form with store := form.store.remove (form.store.present names) }
    (form.store.present names)

/-- The form with a number of open batches. -/
def counting (depth : Nat) (form : Form) : Form :=
  { form with store := { form.store with batchDepth := depth } }

def openBatch (form : Form) : Form := { form with store := form.store.openBatch }

def closeBatch (form : Form) : Form :=
  hear { form with store := form.store.closeBatch.2 } form.store.closeBatch.1

/-- What listeners of the tracker hear of when the form takes note of changed fields. -/
def toldOfRecord (form : Form) (names : List String) : List (String × Visibility) :=
  told { form with store := (form.store.record names).2 } (form.store.record names).1

/-- What listeners of the tracker hear of when values are written. -/
def toldOfWrite (form : Form) (values : Entries Value) : List (String × Visibility) :=
  toldOfRecord { form with store := form.store.write values } (form.store.changes values)

/-- What listeners of the tracker hear of when the innermost batch is closed. -/
def toldOfClose (form : Form) : List (String × Visibility) :=
  told { form with store := form.store.closeBatch.2 } form.store.closeBatch.1

/-- A new form over the store of a number, after the first cycle of its tracker. -/
def begin (number : Nat) (store : Store) (fields : List Field) : Form :=
  cycle { tracker := Tracker.ofFields number fields, store }
    (Tracker.ofFields number fields).conditions.names

/-- The form after its tracker, of some number, has begun to listen. -/
def start (number : Nat) (form : Form) : Form :=
  { tracker := { form.tracker with isActive := true }
    store := form.store.subscribe (.tracker number) }

/-- The form after its tracker has ceased to listen. -/
def stop (number : Nat) (form : Form) : Form :=
  { tracker := { form.tracker with isActive := false }
    store := form.store.unsubscribe (.tracker number) }

def payload (form : Form) : Entries Value :=
  form.store.values.filter fun entry => isShown (some form.tracker.map) entry.1

theorem cycle_of_isEmpty (form : Form) {affected : List String}
    (none : (form.tracker.cycle affected form.store.values).cleared.isEmpty = true) :
    form.cycle affected =
      { tracker :=
          { form.tracker with map := (form.tracker.cycle affected form.store.values).map }
        store :=
          form.store.remove (form.tracker.cycle affected form.store.values).cleared } := by
  simp only [cycle, if_pos none]

theorem cycle_of_not_isEmpty (form : Form) {affected : List String}
    (some : ¬(form.tracker.cycle affected form.store.values).cleared.isEmpty = true) :
    form.cycle affected =
      { tracker :=
          { form.tracker with map := (form.tracker.cycle affected form.store.values).map }
        store := ((form.store.remove
          (form.tracker.cycle affected form.store.values).cleared).record
            (form.tracker.cycle affected form.store.values).cleared).2 } := by
  simp only [cycle, if_neg some]

theorem cycle_of_still {form : Form} {affected : List String}
    (map : (form.tracker.cycle affected form.store.values).map = form.tracker.map)
    (cleared : (form.tracker.cycle affected form.store.values).cleared = []) :
    form.cycle affected = form := by
  rw [cycle_of_isEmpty form (List.isEmpty_iff.mpr cleared), map, cleared, Store.remove,
    Entries.dropAll_nil]

theorem cycle_values (form : Form) (affected : List String) :
    (form.cycle affected).store.values = form.store.values.dropAll
      (form.tracker.cycle affected form.store.values).cleared := by
  simp only [cycle]
  split
  · rfl
  · exact (Store.record_keeps _ _).1

/-- A later form has certain values, but for some that conditional fields have lost. -/
def Loses (form : Form) (values : Entries Value) (later : Form) : Prop :=
  ∃ cleared ⊆ form.tracker.conditions.names, later.store.values = values.dropAll cleared

theorem cycle_loses {form : Form} (distinct : form.tracker.conditions.names.Nodup)
    (fits : form.tracker.map.Fits form.tracker.conditions) (affected : List String) :
    form.Loses form.store.values (form.cycle affected) :=
  ⟨_, (Cycle.settle_values distinct fits rfl).2, cycle_values form affected⟩

theorem hear_loses (form : Form) (distinct : form.tracker.conditions.names.Nodup)
    (fits : form.tracker.map.Fits form.tracker.conditions) (names : List String) :
    form.Loses form.store.values (form.hear names) := by
  unfold hear
  split
  · exact ⟨[], List.nil_subset _, (Entries.dropAll_nil _).symm⟩
  · exact cycle_loses distinct fits _

theorem write_loses {form : Form} (distinct : form.tracker.conditions.names.Nodup)
    (fits : form.tracker.map.Fits form.tracker.conditions) (values : Entries Value) :
    form.Loses (form.store.values.putAll values) (form.write values) := by
  obtain ⟨cleared, within, same⟩ := hear_loses
    { form with store := ((form.store.write values).record (form.store.changes values)).2 }
    distinct fits ((form.store.write values).record (form.store.changes values)).1
  refine ⟨cleared, within, same.trans ?_⟩
  rw [(Store.record_keeps _ _).1]
  rfl

theorem begin_loses (number : Nat) (store : Store) (fields : List Field) :
    Loses { tracker := Tracker.ofFields number fields, store } store.values
      (begin number store fields) :=
  cycle_loses (Conditions.nodup_ofFields fields) (Visibility.fits_all fields) _

theorem cycle_pending {form : Form} (outside : form.store.batchDepth = 0)
    (affected : List String) : (form.cycle affected).store.pending = form.store.pending := by
  simp only [cycle]
  split
  · rfl
  · simp only [Store.record, Store.remove, outside, if_true]

theorem hear_busy {form : Form} {names : List String}
    (busy : form.tracker.reactsTo names ≠ []) :
    form.hear names = form.cycle (form.tracker.reactsTo names) := by
  simp [hear, busy]

theorem hear_nil (form : Form) : form.hear [] = form := by
  simp [hear, Tracker.reactsTo, Conditions.affectedBy_nil]

theorem told_nil (form : Form) : form.told [] = [] := by
  simp [told, Tracker.reactsTo, Conditions.affectedBy_nil]

theorem hear_pending {form : Form} (outside : form.store.batchDepth = 0)
    (names : List String) : (form.hear names).store.pending = form.store.pending := by
  unfold hear
  split
  · rfl
  · exact cycle_pending outside _

theorem get?_of_cycle {form : Form} {affected : List String} {name : String} {value : Value}
    (h : (form.cycle affected).store.values.get? name = some value) :
    form.store.values.get? name = some value := by
  rw [cycle_values, Entries.get?_dropAll] at h
  split at h
  · cases h
  · exact h

theorem get?_of_hear {form : Form} {names : List String} {name : String} {value : Value}
    (h : (form.hear names).store.values.get? name = some value) :
    form.store.values.get? name = some value := by
  unfold hear at h
  split at h
  · exact h
  · exact get?_of_cycle h

theorem write_outside {form : Form} (outside : form.store.batchDepth = 0)
    (values : Entries Value) : form.write values =
      hear { form with store := form.store.write values }
        (Names.distinct (form.store.changes values)) := by
  have still : (form.store.write values).batchDepth = 0 := outside
  rw [write, record, Store.record_outside still]

theorem toldOfWrite_outside {form : Form} (outside : form.store.batchDepth = 0)
    (values : Entries Value) : form.toldOfWrite values =
      told { form with store := form.store.write values }
        (Names.distinct (form.store.changes values)) := by
  have still : (form.store.write values).batchDepth = 0 := outside
  rw [toldOfWrite, toldOfRecord, Store.record_outside still]

/-! ## What an operation leaves alone -/

/-- A step that may change the map, the values, what waits to be told and which functions of
    the host listen, and nothing else. -/
structure Steady (form later : Form) : Prop where
  tracker : later.tracker =
    { form.tracker with map := later.tracker.map, listeners := later.tracker.listeners }
  names : form.tracker.map.names ⊆ later.tracker.map.names
  trackers : later.store.trackers = form.store.trackers
  batchDepth : later.store.batchDepth = form.store.batchDepth

theorem Steady.refl (form : Form) : form.Steady form :=
  ⟨rfl, List.Subset.refl _, rfl, rfl⟩

theorem Steady.store (form : Form) (store : Store)
    (trackers : store.trackers = form.store.trackers)
    (batchDepth : store.batchDepth = form.store.batchDepth) : form.Steady { form with store } :=
  ⟨rfl, List.Subset.refl _, trackers, batchDepth⟩

theorem Steady.trans {first second third : Form} (h : first.Steady second)
    (h' : second.Steady third) : first.Steady third where
  tracker := by rw [h'.tracker, h.tracker]
  names := List.Subset.trans h.names h'.names
  trackers := h'.trackers.trans h.trackers
  batchDepth := h'.batchDepth.trans h.batchDepth

theorem Steady.conditions {form later : Form} (h : form.Steady later) :
    later.tracker.conditions = form.tracker.conditions := by rw [h.tracker]

theorem cycle_steady (form : Form) (affected : List String) :
    form.Steady (form.cycle affected) := by
  have names : form.tracker.map.names ⊆ (form.cycle affected).tracker.map.names :=
    Cycle.subset_names_settle form.tracker.conditions
      { map := form.tracker.map, values := form.store.values, pending := affected }
  refine ⟨rfl, names, ?_, ?_⟩ <;> simp only [cycle] <;> split
  · rfl
  · exact (Store.record_keeps _ _).2.1
  · rfl
  · exact (Store.record_keeps _ _).2.2

theorem begin_steady (number : Nat) (store : Store) (fields : List Field) :
    Steady { tracker := Tracker.ofFields number fields, store } (begin number store fields) :=
  cycle_steady _ _

theorem hear_steady (form : Form) (names : List String) : form.Steady (form.hear names) := by
  unfold hear
  split
  · exact .refl form
  · exact cycle_steady form _

theorem record_steady (form : Form) (names : List String) :
    form.Steady (form.record names) :=
  have keeps := Store.record_keeps form.store names
  (Steady.store form _ keeps.2.1 keeps.2.2).trans (hear_steady _ _)

theorem write_steady (form : Form) (values : Entries Value) :
    form.Steady (form.write values) :=
  (Steady.store form (form.store.write values) rfl rfl).trans (record_steady _ _)

theorem clear_steady (form : Form) (names : List String) : form.Steady (form.clear names) :=
  (Steady.store form (form.store.remove (form.store.present names)) rfl rfl).trans
    (record_steady _ _)

theorem closeBatch_steady (form : Form) :
    (form.counting (form.store.batchDepth - 1)).Steady form.closeBatch := by
  have keeps := Store.closeBatch_keeps form.store
  have counted : (form.counting (form.store.batchDepth - 1)).Steady
      { form with store := form.store.closeBatch.2 } :=
    ⟨rfl, List.Subset.refl _, keeps.2.1, keeps.2.2⟩
  exact counted.trans (hear_steady _ _)

end Form

end Formwork
