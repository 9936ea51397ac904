import Formwork.Proofs.Workspace.Form

/-! # Hosts that look on

The functions of a host may do whatever they like and fail whenever they like. As long as they leave
a store and its tracker alone, the tracker does the same as without them once it is told of a
change: its map is replaced before anyone is told of it, and what it is silenced for is undone in
any case. But whoever fails in front of the tracker keeps it from being told.
-/

namespace Formwork

namespace Workspace

variable {w : Workspace} {s t : Nat} {keeps : Workspace → Prop} {hooks : Nat → Hooks} {form : Form}

/-- The second workspace has a certain form, and something holds of it. -/
structure HasForm (keeps : Workspace → Prop) (s t : Nat) (form : Form) (w : Workspace) : Prop where
  form : w.formAt s t = form
  kept : keeps w

/-- Functions of the host leave a store and its tracker alone, whatever else they do and whether
    they return or fail. They may rely on something that they all keep, and that the library cannot
    change. -/
structure Bystanders (hooks : Nat → Hooks) (s t : Nat) (keeps : Workspace → Prop) : Prop where
  reacts : ∀ depth names values,
    (hooks (depth + 1)).changed (.tracker t) names values = react (hooks depth) t names
  changed : ∀ depth name names values w, keeps w →
    HasForm keeps s t (w.formAt s t) ((hooks depth).changed (.host name) names values w).2
  shown : ∀ depth name map w, keeps w →
    HasForm keeps s t (w.formAt s t) ((hooks depth).shown name map w).2
  untouched : ∀ w w', w'.scripts = w.scripts → w'.watchScripts = w.watchScripts →
    keeps w → keeps w'

/-- A listener that leaves the form of a tracker alone when it is called: a function of the host,
    or the tracker while it is silenced. -/
def LooksOn (form : Form) (t : Nat) : Listener → Prop
  | .host _ => True
  | .tracker id => id = t ∧ form.tracker.isAnnouncing = true

/-- A function of the host among some listeners fails when it is told of a change. -/
def FailsAmong (hooks : Hooks) (keeps : Workspace → Prop) (s t : Nat) (form : Form)
    (names : List String) (listeners : List Listener) (run : Except Fault Unit × Workspace) :
    Prop :=
  ∃ front name back told fault, listeners = front ++ .host name :: back ∧
    HasForm keeps s t form told ∧
    hooks.changed (.host name) names form.store.values told = (.error fault, run.2) ∧
    run.1 = .error fault

theorem looksOn_of_trackers {listeners : List Listener}
    (only : ∀ id ∈ listeners.filterMap Listener.tracker?, id = t)
    (silenced : form.tracker.isAnnouncing = true) :
    ∀ listener ∈ listeners, LooksOn form t listener := by
  intro listener member
  cases listener with
  | host name => trivial
  | tracker id => exact ⟨only id (List.mem_filterMap.mpr ⟨_, member, rfl⟩), silenced⟩

variable (bystanders : Bystanders hooks s t keeps) (depth : Nat)

include bystanders

theorem changed_silenced (silenced : (w.trackerAt t).isAnnouncing = true) (names : List String)
    (values : Entries Value) :
    (hooks (depth + 1)).changed (.tracker t) names values w = (.ok (), w) := by
  have nothing : (w.trackerAt t).reactsTo names = [] := if_pos silenced
  rw [bystanders.reacts, react_nothing _ nothing]

/-- Telling listeners that look on goes on to the others, unless one of them fails. -/
theorem callListeners_looksOn (holds : HasForm keeps s t form w) {front : List Listener}
    (looksOn : ∀ listener ∈ front, LooksOn form t listener) (names : List String)
    (rest : List Listener) :
    (∃ between, HasForm keeps s t form between ∧
      callListeners (hooks (depth + 1)) s names (front ++ rest) w =
        callListeners (hooks (depth + 1)) s names rest between) ∨
    HasForm keeps s t form (callListeners (hooks (depth + 1)) s names (front ++ rest) w).2 ∧
      FailsAmong (hooks (depth + 1)) keeps s t form names front
        (callListeners (hooks (depth + 1)) s names (front ++ rest) w) := by
  induction front generalizing w with
  | nil => exact .inl ⟨w, holds, rfl⟩
  | cons listener front ih =>
      rw [List.forall_mem_cons] at looksOn
      have values : (w.storeAt s).values = form.store.values :=
        congrArg (fun form => form.store.values) holds.form
      rw [List.cons_append, callListeners_cons, values]
      cases listener with
      | tracker id =>
          obtain ⟨rfl, silenced⟩ := looksOn.1
          rw [← holds.form] at silenced
          rw [Effect.bind_of_ok (changed_silenced bystanders depth silenced _ _)]
          rcases ih holds looksOn.2 with on | ⟨still, early, name, late, told, fault, split, run⟩
          · exact .inl on
          · refine .inr ⟨still, .tracker id :: early, name, late, told, fault, ?_, run⟩
            rw [split, List.cons_append]
      | host name =>
          have after := bystanders.changed (depth + 1) name names form.store.values w holds.kept
          rw [holds.form] at after
          rcases ran : (hooks (depth + 1)).changed (.host name) names form.store.values w with
            ⟨fault | ⟨⟩, later⟩
          · rw [ran] at after
            rw [Effect.bind_of_error ran]
            exact .inr ⟨after, [], name, front, w, fault, rfl, holds, ran, rfl⟩
          · rw [ran] at after
            rw [Effect.bind_of_ok ran]
            rcases ih after looksOn.2 with on | ⟨still, early, other, late, told, fault, split, run⟩
            · exact .inl on
            · refine .inr ⟨still, .host name :: early, other, late, told, fault, ?_, run⟩
              rw [split, List.cons_append]

theorem callListeners_hasForm (holds : HasForm keeps s t form w) {listeners : List Listener}
    (looksOn : ∀ listener ∈ listeners, LooksOn form t listener) :
    HasForm keeps s t form (callListeners (hooks (depth + 1)) s names listeners w).2 := by
  have told := callListeners_looksOn bystanders depth holds looksOn names []
  rw [List.append_nil] at told
  rcases told with ⟨between, still, same⟩ | ⟨still, -⟩
  · rw [same]
    exact still
  · exact still

theorem callWatchers_hasForm (holds : HasForm keeps s t form w) (map : Visibility)
    (listeners : List String) :
    HasForm keeps s t form (callWatchers (hooks depth) map listeners w).2 := by
  induction listeners generalizing w with
  | nil => exact holds
  | cons name rest ih =>
      refine Effect.snd_bind ?_ fun _ after still => ih still
      rw [← holds.form]
      exact bystanders.shown depth name map w holds.kept

theorem HasForm.updateStore (holds : HasForm keeps s t form w) (f : Store → Store) :
    HasForm keeps s t { form with store := f form.store } (w.updateStore s f) := by
  refine ⟨?_, bystanders.untouched w _ rfl rfl holds.kept⟩
  rw [formAt_updateStore, ← holds.form]
  rfl

theorem HasForm.updateTracker (holds : HasForm keeps s t form w) (f : Tracker → Tracker) :
    HasForm keeps s t { form with tracker := f form.tracker } (w.updateTracker t f) := by
  refine ⟨?_, bystanders.untouched w _ rfl rfl holds.kept⟩
  rw [formAt_updateTracker, ← holds.form]
  rfl

theorem HasForm.addNotices (holds : HasForm keeps s t form w) (notices : List Notice) :
    HasForm keeps s t form (w.addNotices notices) :=
  ⟨holds.form, bystanders.untouched w _ rfl rfl holds.kept⟩

theorem record_hasForm (holds : HasForm keeps s t form w)
    (only : ∀ id ∈ form.store.trackers, id = t)
    (silenced : form.tracker.isAnnouncing = true) (names : List String) :
    HasForm keeps s t { form with store := (form.store.record names).2 }
      (record (hooks (depth + 1)) s names w).2 := by
  have recorded := holds.updateStore bystanders fun _ => (form.store.record names).2
  have same : w.storeAt s = form.store := congrArg Form.store holds.form
  rw [record_apply, same, notify_apply]
  split
  · exact recorded
  · rw [storeAt_updateStore]
    refine callListeners_hasForm bystanders depth recorded (looksOn_of_trackers ?_ silenced)
    have trackers := (Store.record_keeps form.store names).2.1
    exact fun id listed => only id (trackers ▸ listed)

theorem runCycle_hasForm (holds : HasForm keeps s t form w) (follows : form.tracker.store = s)
    (quiet : form.tracker.isAnnouncing = false) (only : ∀ id ∈ form.store.trackers, id = t)
    (affected : List String) :
    HasForm keeps s t (form.cycle affected) (runCycle (hooks (depth + 1)) t affected w).2 := by
  obtain ⟨rfl, kept⟩ := holds
  have passed : HasForm keeps s t
      { tracker := { w.trackerAt t with map := (w.cycleAt s t affected).map }
        store := (w.storeAt s).remove (w.cycleAt s t affected).cleared }
      (w.afterPasses s t affected) := by
    have removed := (HasForm.mk (s := s) (t := t) rfl kept).updateStore bystanders
      (·.remove (w.cycleAt s t affected).cleared)
    have noted := removed.addNotices bystanders (w.cycleAt s t affected).notices
    exact noted.updateTracker bystanders fun tracker =>
      { tracker with map := (w.cycleAt s t affected).map }
  rw [runCycle_apply _ follows]
  split
  next none =>
    rw [Form.cycle_of_isEmpty (w.formAt s t) none]
    exact passed
  next some =>
    rw [Form.cycle_of_not_isEmpty (w.formAt s t) some, Effect.snd_bind_pure]
    have raised := passed.updateTracker bystanders fun tracker =>
      { tracker with isAnnouncing := true }
    have told := record_hasForm bystanders depth raised only rfl (w.cycleAt s t affected).cleared
    have lowered := told.updateTracker bystanders fun tracker =>
      { tracker with isAnnouncing := false }
    refine ⟨lowered.form.trans ?_, lowered.kept⟩
    rw [← quiet]
    rfl

/-- Whoever fails when the tracker reacts, what comes of it is what it is to hear of the change. -/
theorem react_hasForm (holds : HasForm keeps s t form w) (follows : form.tracker.store = s)
    (quiet : form.tracker.isAnnouncing = false) (only : ∀ id ∈ form.store.trackers, id = t)
    (names : List String) :
    HasForm keeps s t (form.hear names) (react (hooks (depth + 1)) t names w).2 := by
  have same : w.trackerAt t = form.tracker := congrArg Form.tracker holds.form
  rw [react_apply, same, Form.hear]
  split
  · exact holds
  · refine Effect.snd_bind ?_ fun answer after cycled => ?_
    · exact runCycle_hasForm bystanders depth holds follows quiet only _
    · unfold tellWatchers
      split
      · exact callWatchers_hasForm bystanders _ (cycled.addNotices bystanders _) _ _
      · exact cycled

/-- The tracker hears of a change whatever the functions of the host do, unless one of those in
    front of it fails. -/
theorem notify_hasForm (holds : HasForm keeps s t form w) (follows : form.tracker.store = s)
    (quiet : form.tracker.isAnnouncing = false) (listening : form.store.trackers = [t])
    (names : List String) :
    HasForm keeps s t (form.hear names) (notify (hooks (depth + 2)) s names w).2 ∨
      HasForm keeps s t form (notify (hooks (depth + 2)) s names w).2 ∧
        ∃ front back, form.store.listeners = front ++ .tracker t :: back ∧
          FailsAmong (hooks (depth + 2)) keeps s t form names front
            (notify (hooks (depth + 2)) s names w) := by
  obtain ⟨front, found, back, around, before, isTracker, after⟩ :=
    List.filterMap_eq_cons_iff.mp listening
  cases found with
  | host name => cases isTracker
  | tracker id =>
  cases isTracker
  have hosts : ∀ listeners : List Listener, listeners.filterMap Listener.tracker? = [] →
      ∀ form, ∀ listener ∈ listeners, LooksOn form t listener := by
    intro listeners none form listener member
    cases listener with
    | host name => trivial
    | tracker id => cases List.filterMap_eq_nil_iff.mp none _ member
  have listeners : (w.storeAt s).listeners = front ++ .tracker t :: back := by
    rw [← around, ← holds.form]
    rfl
  rw [notify_apply, listeners]
  split
  next none =>
    rw [List.isEmpty_iff.mp none, Form.hear_nil]
    exact .inl holds
  next some =>
    have ahead := hosts front (List.filterMap_eq_nil_iff.mpr before) form
    rcases callListeners_looksOn bystanders (depth + 1) holds ahead names
      (.tracker t :: back) with ⟨between, still, same⟩ | ⟨still, fails⟩
    · refine .inl ?_
      rw [same, callListeners_cons, bystanders.reacts]
      refine Effect.snd_bind ?_ fun _ later heard => ?_
      · exact react_hasForm bystanders depth still follows quiet (by simp [listening]) names
      · exact callListeners_hasForm bystanders (depth + 1) heard (hosts back after _)
    · exact .inr ⟨still, front, back, around, fails⟩

end Workspace

end Formwork
