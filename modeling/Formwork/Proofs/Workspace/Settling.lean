import Formwork.Proofs.Workspace.Opening

/-! # Cycles settle

The first cycle of a new tracker settles the values of its store, whatever the fields and the
values are. So does every later cycle that evaluates some conditional fields, if the map is right
for all others. A cycle never ends because its number of passes is used up.
-/

namespace Formwork

/-- The trackers that fields have in the course of time: a new one, one after a cycle over any
    values, and one that listens, is listened to or announces otherwise. -/
inductive Tracker.Serves (fields : List Field) : Tracker → Prop where
  | new (store : Nat) : Serves fields (Tracker.ofFields store fields)
  | cycle {tracker : Tracker} (serves : Serves fields tracker) (affected : List String)
      (values : Entries Value) :
      Serves fields { tracker with map := (tracker.cycle affected values).map }
  | other {tracker : Tracker} (serves : Serves fields tracker) (listeners : List String)
      (isActive isAnnouncing : Bool) :
      Serves fields { tracker with listeners, isActive, isAnnouncing }

variable {fields : List Field}

theorem Tracker.Serves.conditions {tracker : Tracker} (serves : tracker.Serves fields) :
    tracker.conditions = Conditions.ofFields fields := by
  induction serves with
  | new => rfl
  | cycle _ _ _ ih => exact ih
  | other _ _ _ _ ih => exact ih

theorem Tracker.Serves.fits {tracker : Tracker} (serves : tracker.Serves fields) :
    tracker.map.Fits (Conditions.ofFields fields) := by
  induction serves with
  | new => exact Visibility.fits_all fields
  | other _ _ _ _ ih => exact ih
  | @cycle tracker serves affected values ih =>
      show (Cycle.settle tracker.conditions _).map.Fits _
      rw [serves.conditions]
      exact Cycle.settle_fits (Conditions.nodup_ofFields fields) ih

namespace Form

variable {form : Form} {affected : List String}

/-- Nothing is left to do for a tracker over its store, which has lost some values of conditional
    fields and no others. -/
structure Settled (form : Form) (fields : List Field) (old : Entries Value) : Prop where
  right : ∀ name c, (Conditions.ofFields fields).get? name = some c →
    form.tracker.map.get? name = some (c.holds form.store.values)
  absent : ∀ name, form.tracker.map.get? name = some false →
    form.store.values.get? name = none
  kept : ∃ cleared ⊆ (Conditions.ofFields fields).names, form.store.values = old.dropAll cleared
  again : form.cycle (Conditions.ofFields fields).names = form

theorem cycle_settled (form : Form)
    (conditions : form.tracker.conditions = Conditions.ofFields fields)
    (sound : Cycle.Sound (Conditions.ofFields fields)
      { map := form.tracker.map, values := form.store.values, pending := affected })
    (start : affected = [] → Conditions.ofFields fields = []) :
    (form.tracker.cycle affected form.store.values).pending = [] ∧
      (form.cycle affected).Settled fields form.store.values := by
  have distinct := Conditions.nodup_ofFields fields
  have settled := Cycle.settle_settled distinct sound start
  have kept := Cycle.settle_values distinct sound.fits rfl
  rw [← conditions] at settled kept
  have values : (form.cycle affected).store.values =
      (form.tracker.cycle affected form.store.values).values := by
    rw [cycle_values]
    exact kept.1.symm
  refine ⟨settled.done, ?_, ?_, ?_, ?_⟩
  · intro name c has
    rw [values]
    exact settled.right name c (conditions ▸ has)
  · intro name hidden
    rw [values]
    exact settled.absent name hidden
  · exact ⟨_, conditions ▸ kept.2, values.trans kept.1⟩
  · rw [← conditions] at distinct ⊢
    obtain ⟨map, -, cleared⟩ := settled.again distinct
      { map := (form.cycle affected).tracker.map, values := (form.cycle affected).store.values
        pending := form.tracker.conditions.names } rfl values rfl
    exact cycle_of_still map cleared

theorem begin_settled (number : Nat) (store : Store) (fields : List Field) :
    ((Tracker.ofFields number fields).cycle (Conditions.ofFields fields).names
      store.values).pending = [] ∧
      (Form.begin number store fields).Settled fields store.values :=
  cycle_settled { tracker := Tracker.ofFields number fields, store } rfl
    (Cycle.sound_all fields store.values) fun none => List.map_eq_nil_iff.mp none

end Form

namespace Workspace

/-- Nothing is left to do for a tracker over its store, which has lost some values of conditional
    fields and no others. -/
structure Settled (w : Workspace) (s t : Nat) (fields : List Field) (old : Entries Value) :
    Prop where
  right : ∀ name c, (Conditions.ofFields fields).get? name = some c →
    (w.trackerAt t).map.get? name = some (c.holds (w.storeAt s).values)
  absent : ∀ name, (w.trackerAt t).map.get? name = some false →
    (w.storeAt s).values.get? name = none
  kept : ∃ cleared ⊆ (Conditions.ofFields fields).names,
    (w.storeAt s).values = old.dropAll cleared
  again : ∀ depth, Effect.Yields
    (runCycle (callbacks (depth + 1)) t (Conditions.ofFields fields).names w) fun _ after =>
      (after.trackerAt t).map = (w.trackerAt t).map ∧ after.storeAt s = w.storeAt s

variable {w : Workspace} {s t : Nat}

theorem settled_of_form (alone : w.Alone s t) {old : Entries Value}
    (settled : (w.formAt s t).Settled fields old) : w.Settled s t fields old := by
  refine ⟨settled.right, settled.absent, settled.kept, fun depth => ?_⟩
  refine (runCycle_form depth alone _).mono ?_
  rintro answer after ⟨-, cycled⟩
  rw [settled.again] at cycled
  exact ⟨congrArg Tracker.map cycled.trackerAt, cycled.storeAt⟩

/-- The first cycle of a new tracker and every later one settle, whatever the fields are and the
    store holds. -/
theorem cycles_settle (fields : List Field) (w : Workspace) (s depth : Nat) :
    (w.Records → (w.storeAt s).trackers = [] →
      ((Tracker.ofFields s fields).cycle (Conditions.ofFields fields).names
        (w.storeAt s).values).pending = [] ∧
      Effect.Yields (createTracker (callbacks (depth + 1)) s fields w) fun t after =>
        after.Settled s t fields (w.storeAt s).values) ∧
    ∀ t affected, w.Alone s t → (w.trackerAt t).Serves fields → affected ≠ [] →
      (∀ name c, (Conditions.ofFields fields).get? name = some c → name ∉ affected →
        (w.trackerAt t).map.get? name = some (c.holds (w.storeAt s).values)) →
      ((w.trackerAt t).cycle affected (w.storeAt s).values).pending = [] ∧
      Effect.Yields (runCycle (callbacks (depth + 1)) t affected w) fun _ after =>
        after.Settled s t fields (w.storeAt s).values := by
  refine ⟨fun records free => ?_, fun t affected alone serves busy right => ?_⟩
  · obtain ⟨done, settled⟩ := Form.begin_settled s (w.storeAt s) fields
    refine ⟨done, (createTracker_form depth records free fields).mono ?_⟩
    rintro t after ⟨begun, alone⟩
    rw [← begun.form] at settled
    exact settled_of_form alone settled
  · obtain ⟨done, settled⟩ := Form.cycle_settled (w.formAt s t) serves.conditions
      ⟨serves.fits, right⟩ fun empty => absurd empty busy
    refine ⟨done, (runCycle_form depth alone affected).mono ?_⟩
    rintro answer after ⟨-, cycled⟩
    have still := alone.becomes cycled (Form.cycle_steady _ _)
    rw [← cycled.form] at settled
    exact settled_of_form still settled

/-- Two fields, each of which is asked for while the other one is empty. -/
def rivals : List Field :=
  [("a", "b"), ("b", "a")].map fun (name, other) =>
    { name, condition := some
        { field := some other, operator := some "isEmpty", value := .null, equals := none
          conditions := none, combinator := none } }

def rivalsFilled : Workspace :=
  { stores := [(0, { values := [("a", .str "1"), ("b", .str "2")] })] }

def rivalsTracked : Workspace := (createTracker (callbacks 1) 0 rivals rivalsFilled).2

theorem rivals_cycles_settle :
    rivalsFilled.Records ∧ (rivalsFilled.storeAt 0).trackers = [] ∧
      (Effect.Yields (createTracker (callbacks 1) 0 rivals rivalsFilled) fun t after =>
        after.Settled 0 t rivals (rivalsFilled.storeAt 0).values) ∧
      Effect.Yields (runCycle (callbacks 1) 0 ["a"] rivalsTracked) fun _ after =>
        after.Settled 0 0 rivals (rivalsTracked.storeAt 0).values := by
  have records : rivalsFilled.Records := .unscripted rfl rfl
  have alone : rivalsTracked.Alone 0 0 := by
    refine ⟨.unscripted rfl rfl, rfl, rfl, ?_⟩
    intro id none
    cases none
  have serves : (rivalsTracked.trackerAt 0).Serves rivals := .cycle (.new 0) _ _
  refine ⟨records, rfl, ((cycles_settle rivals rivalsFilled 0 0).1 records rfl).2, ?_⟩
  refine ((cycles_settle rivals rivalsTracked 0 0).2 0 ["a"] alone serves (by decide) ?_).2
  intro name c has other
  have listed : (name, c) ∈ Conditions.ofFields rivals := Entries.mem_of_get? has
  rcases List.mem_cons.mp listed with same | rest
  · cases same
    exact absurd (List.mem_singleton_self _) other
  · cases List.mem_singleton.mp rest
    rfl

end Workspace

end Formwork
