import Formwork.Proofs.Workspace.Form

/-! # Forms that begin and end in a workspace

A new tracker over a store to which no tracker listens makes a new form of it, whatever the
store holds; it then listens or ceases to listen.
-/

namespace Formwork

namespace Store

theorem trackers_subscribe (store : Store) (id : Nat) :
    (store.subscribe (.tracker id)).trackers = store.trackers ++ [id] := by
  simp [subscribe, trackers, List.filterMap_append, Listener.tracker?]

theorem trackers_subscribe_host (store : Store) (name : String) :
    (store.subscribe (.host name)).trackers = store.trackers := by
  simp [subscribe, trackers, List.filterMap_append, Listener.tracker?]

theorem trackers_unsubscribe (store : Store) (id : Nat) :
    (store.unsubscribe (.tracker id)).trackers = store.trackers.erase id := by
  unfold unsubscribe trackers
  induction store.listeners with
  | nil => rfl
  | cons listener rest ih =>
      simp only at ih
      cases listener with
      | host name => simpa [List.erase_cons, List.filterMap_cons, Listener.tracker?] using ih
      | tracker other =>
          by_cases same : other = id
          · simp [Listener.tracker?, same]
          · simpa [List.erase_cons, List.filterMap_cons, Listener.tracker?, same] using ih

end Store

namespace Workspace

variable {w : Workspace} {s t : Nat} (depth : Nat)

theorem createTracker_form (records : w.Records) (free : (w.storeAt s).trackers = [])
    (fields : List Field) :
    Effect.Yields (createTracker (callbacks (depth + 1)) s fields w) fun id after =>
      w.FormBecomes s id (Form.begin s (w.storeAt s) fields) after ∧ after.Alone s id := by
  have added := (FormBecomes.refl (s := s) (t := w.trackers.fresh) records).updateTracker
    fun _ => Tracker.ofFields s fields
  have alone : (w.updateTracker w.trackers.fresh fun _ => Tracker.ofFields s fields).Alone s
      w.trackers.fresh := by
    refine ⟨added.sameButForm.records, ?_, ?_, ?_⟩
    · rw [added.trackerAt]
      rfl
    · rw [added.trackerAt]
      rfl
    · rw [added.storeAt]
      show ∀ id ∈ (w.storeAt s).trackers, id = _
      simp [free]
  show Effect.Yields ((discard (runCycle _ _ _) >>= fun _ => pure w.trackers.fresh) _) _
  refine (((runCycle_form depth alone _).mono fun _ after cycled =>
    cycled.2).discard).bind fun _ after cycled => ?_
  have still := alone.becomes cycled (Form.cycle_steady _ _)
  rw [added.form] at cycled
  exact .pure ⟨added.trans cycled, still⟩

theorem startTracker_form (records : w.Records) (follows : (w.trackerAt t).store = s)
    (inactive : (w.trackerAt t).isActive = false) :
    Effect.Yields (startTracker t w) fun _ after =>
      w.FormBecomes s t ((w.formAt s t).start t) after := by
  have started := ((FormBecomes.refl (s := s) (t := t) records).updateStore
    (·.subscribe (.tracker t))).updateTracker fun tracker => { tracker with isActive := true }
  have run : startTracker t w = (.ok (), (w.updateStore s
      (·.subscribe (.tracker t))).updateTracker t
        fun tracker => { tracker with isActive := true }) := by
    unfold startTracker
    rw [Effect.get_bind, inactive, follows]
    rfl
  exact ⟨(), _, run, started⟩

theorem stopTracker_form (records : w.Records) (follows : (w.trackerAt t).store = s)
    (active : (w.trackerAt t).isActive = true) :
    Effect.Yields (stopTracker t w) fun _ after =>
      w.FormBecomes s t ((w.formAt s t).stop t) after := by
  have stopped := ((FormBecomes.refl (s := s) (t := t) records).updateStore
    (·.unsubscribe (.tracker t))).updateTracker fun tracker => { tracker with isActive := false }
  have run : stopTracker t w = (.ok (), (w.updateStore s
      (·.unsubscribe (.tracker t))).updateTracker t
        fun tracker => { tracker with isActive := false }) := by
    unfold stopTracker
    rw [Effect.get_bind, active, follows]
    rfl
  exact ⟨(), _, run, stopped⟩

theorem createTracker_start (records : w.Records) (free : (w.storeAt s).trackers = [])
    (fields : List Field) :
    Effect.Yields (createTracker (callbacks (depth + 1)) s fields w) fun id between =>
      Effect.Yields (startTracker id between) fun _ after =>
        w.FormBecomes s id ((Form.begin s (w.storeAt s) fields).start id) after ∧
          after.Listens s id := by
  refine (createTracker_form depth records free fields).mono fun id between made => ?_
  have begun := made.1
  have steady := Form.begin_steady s (w.storeAt s) fields
  have fresh := begun.trackerAt.trans steady.tracker
  have follows : (between.trackerAt id).store = s := by
    rw [fresh]
    rfl
  have inactive : (between.trackerAt id).isActive = false := by
    rw [fresh]
    rfl
  refine (startTracker_form begun.sameButForm.records follows inactive).mono
    fun _ after started => ?_
  rw [begun.form] at started
  have listening : (after.storeAt s).trackers = [id] := by
    rw [started.storeAt]
    show (Store.subscribe _ _).trackers = [id]
    rw [Store.trackers_subscribe, steady.trackers]
    exact congrArg (· ++ [id]) free
  have tracker := started.trackerAt.trans (congrArg
    (fun tracker : Tracker => { tracker with isActive := true }) steady.tracker)
  refine ⟨begun.trans started, ⟨⟨started.sameButForm.records, ?_, ?_, ?_⟩, listening⟩⟩
  · rw [tracker]
    rfl
  · rw [tracker]
    rfl
  · simp [listening]

end Workspace

end Formwork
