import Formwork.Proofs.Host.Sessions
import Formwork.Proofs.Store.Sharing

/-! # Telling hosts that merely record

Where functions of the host merely record what they are told, sessions stay as they are, and
nobody fails, as long as callbacks may go as deep as there are trackers that listen.
-/

namespace Formwork

open Workspace Effect

/-- Functions of the host record on, and all but stores, trackers and notes stays as it is. -/
def Course.recording : Course where
  Sound := Records
  Leads w w' := w.Records → w.SameButForms w'
  refl := fun _ records => .refl records
  trans := fun leads leads' records =>
    (leads records).trans (leads' (leads records).records)
  keeps := fun leads records => (leads records).records
  store := fun s f _ records => records.updateStore s f
  tracker := fun t f _ _ _ _ records => records.updateTracker t f
  notices := fun notices records => (records.addNotices notices).sameButForms

namespace Workspace

variable {shut : List Nat} {w : Workspace} {s t : Nat}

theorem callbacks_record (depth : Nat) : (callbacks depth).Take .recording := by
  induction depth with
  | zero => exact ⟨fun _ _ _ _ => .fail _, fun _ _ _ => .fail _⟩
  | succ depth ih =>
      refine ⟨fun {w} records listener names values => ?_, fun {w} records name map => ?_⟩
      · cases listener with
        | tracker id => exact react_goes ih records id names
        | host name =>
            exact .of_yields (changed_host depth records name names values) fun _ _ told _ =>
              told.sameButForms
      · exact .of_yields (shown_host depth records name map) fun _ _ told _ => told.sameButForms

theorem setValues_records (records : w.Records) (depth s : Nat) (values : Entries Value) :
    w.SameButForms (setValues (callbacks depth) s values w).2 :=
  (setValues_goes (callbacks_record depth) records s values).leads records

theorem createTracker_recorded (records : w.Records) (depth s : Nat) (fields : List Field) :
    Goes .recording w (createTracker (callbacks depth) s fields w) Any := by
  have made := records.updateTracker w.trackers.fresh fun _ => Tracker.ofFields s fields
  have ran := runCycle_goes (callbacks_record depth) made.records w.trackers.fresh
    (Conditions.ofFields fields).names
  rw [createTracker_apply]
  exact .after (fun _ => made) (ran.discard.answering _)

theorem startTracker_recorded (records : w.Records) (t : Nat) :
    Goes .recording w (startTracker t w) Any := by
  rw [startTracker_apply]
  split
  · exact ⟨.refl, fun _ _ => trivial⟩
  · have subscribed := records.updateStore (w.trackerAt t).store (·.subscribe (.tracker t))
    have started : w.SameButForms (w.started t) :=
      subscribed.trans (subscribed.records.updateTracker t _)
    exact ⟨fun _ => started, fun _ _ => trivial⟩

/-- Also if the rules do not compile, or if a new tracker finds the callbacks too deep. -/
theorem openSession_recorded (records : w.Records) (depth : Nat) (shared : SharedSchema)
    (options : CompileOptions) (initial : Entries Value) :
    Goes .recording w (openSession (callbacks depth) shared options initial w) Any := by
  have prepared := records.prepare initial
  have compiling : Goes .recording (w.prepare initial)
      (compileRules options shared.schema (w.prepare initial)) Any := by
    rw [compileRules_apply]
    exact ⟨Course.recording.notices _, fun _ _ => trivial⟩
  refine .after (fun _ => prepared) (compiling.bind fun rules compiled noted _ => ?_)
  have records := (noted prepared.records).records
  refine (createTracker_recorded records depth w.stores.fresh _).bind fun t created making _ => ?_
  exact (startTracker_recorded (making records).records t).answering _

/-! ## Nobody fails -/

theorem trackers_lt_depthLimit (w : Workspace) : w.trackers.length < w.depthLimit :=
  Nat.lt_add_of_pos_right (by decide)

theorem notify_returns (orderly : w.Orderly shut) (records : w.Records)
    (outside : (w.storeAt s).batchDepth = 0) {depth : Nat}
    (enough : (w.storeAt s).trackers.length < depth) (names : List String) :
    Yields (notify (callbacks depth) s names w) fun _ _ => True := by
  obtain ⟨depth, rfl⟩ := Nat.exists_eq_add_one_of_ne_zero (Nat.ne_zero_of_lt enough)
  have shares : w.Shares s ⟨(w.storeAt s).trackers, fun t => (w.trackerAt t).conditions⟩ :=
    ⟨records, outside, rfl, fun t listed => (orderly.active listed).2, fun _ _ => rfl,
      fun t _ => orderly.formed t⟩
  refine (notify_passes depth _ _ shares ?_).mono fun _ _ _ => trivial
  exact Nat.le_trans List.countP_le_length (Nat.le_of_lt_succ enough)

/-- Whoever is told of changes after a store has become another one, that has the same trackers. -/
theorem updateStore_notify_returns (orderly : w.Orderly shut) (records : w.Records)
    {f : Store → Store} (trackers : (f (w.storeAt s)).trackers = (w.storeAt s).trackers)
    {names : List String} (silent : (f (w.storeAt s)).batchDepth = 0 ∨ names = []) {depth : Nat}
    (enough : (w.storeAt s).trackers.length < depth) :
    Yields (notify (callbacks depth) s names (w.updateStore s f)) fun _ _ => True := by
  rcases silent with outside | rfl
  · refine notify_returns (orderly.change (.store s f trackers))
      ⟨records.scripts, records.watchScripts⟩ ?_ ?_ names <;> rw [storeAt_updateStore]
    · exact outside
    · rw [trackers]
      exact enough
  · exact ⟨(), _, rfl, trivial⟩

theorem record_returns (orderly : w.Orderly shut) (records : w.Records) {depth : Nat}
    (enough : (w.storeAt s).trackers.length < depth) (names : List String) :
    Yields (record (callbacks depth) s names w) fun _ _ => True := by
  rw [record_apply]
  refine updateStore_notify_returns orderly records (Store.record_keeps _ names).2.1 ?_ enough
  by_cases outside : (w.storeAt s).batchDepth = 0
  · exact .inl (by rw [Store.record_outside outside]; exact outside)
  · exact .inr (by rw [Store.record_inside outside])

theorem closeBatch_returns (orderly : w.Orderly shut) (records : w.Records) {depth : Nat}
    (enough : (w.storeAt s).trackers.length < depth) :
    Yields (closeBatch (callbacks depth) s w) fun _ _ => True := by
  rw [closeBatch_apply]
  refine updateStore_notify_returns orderly records (Store.closeBatch_keeps _).2.1 ?_ enough
  unfold Store.closeBatch
  split
  · exact .inl rfl
  · exact .inr rfl

theorem setValues_returns (orderly : w.Orderly shut) (records : w.Records) {depth : Nat}
    (enough : (w.storeAt s).trackers.length < depth) (values : Entries Value) :
    Yields (setValues (callbacks depth) s values w) fun _ _ => True := by
  rw [setValues_apply]
  refine record_returns (orderly.change (.store s (·.write values) rfl))
    ⟨records.scripts, records.watchScripts⟩ ?_ _
  rw [storeAt_updateStore]
  exact enough

/-- The values of some fields have been removed, and nobody has been told. -/
def without (w : Workspace) (s : Nat) (names : List String) : Workspace :=
  let removed := (w.storeAt s).present names
  let dropped := w.updateStore s (·.remove removed)
  if removed.isEmpty then dropped else dropped.addNotices [.clearedValues (Names.sorted removed)]

theorem clear_apply (hooks : Hooks) (s : Nat) (names : List String) (telling : Bool)
    (w : Workspace) : clear hooks s names telling w =
      if telling then (record hooks s ((w.storeAt s).present names) >>= fun _ =>
        pure ((w.storeAt s).present names)) (w.without s names)
      else (.ok ((w.storeAt s).present names), w.without s names) := by
  unfold clear without
  rw [get_bind, modify_bind]
  dsimp only
  cases ((w.storeAt s).present names).isEmpty <;> cases telling <;> rfl

theorem without_changes (shut : List Nat) (w : Workspace) (s : Nat) (names : List String) :
    Changes shut w (w.without s names) := by
  have dropped : Change shut w (w.updateStore s (·.remove ((w.storeAt s).present names))) :=
    .store s _ rfl
  unfold without
  dsimp only
  split
  · exact dropped.changes
  · exact dropped.changes.then_ (addNotices_change _ _ _)

theorem Records.without (records : w.Records) (s : Nat) (names : List String) :
    (w.without s names).Records := by
  unfold Workspace.without
  dsimp only
  split <;> exact ⟨records.scripts, records.watchScripts⟩

theorem storeAt_without (w : Workspace) (s : Nat) (names : List String) :
    (w.without s names).storeAt s = (w.storeAt s).remove ((w.storeAt s).present names) := by
  have dropped := storeAt_updateStore w s (·.remove ((w.storeAt s).present names))
  unfold without
  dsimp only
  split <;> exact dropped

theorem clear_returns (orderly : w.Orderly shut) (records : w.Records) {depth : Nat}
    (enough : (w.storeAt s).trackers.length < depth) (names : List String) (telling : Bool) :
    Yields (clear (callbacks depth) s names telling w) fun _ _ => True := by
  rw [clear_apply]
  split
  · refine (record_returns ((without_changes shut w s names).orderly orderly)
      (records.without s names) ?_ _).bind fun _ _ _ => .pure trivial
    rw [storeAt_without]
    exact enough
  · exact ⟨_, _, rfl, trivial⟩

theorem runCycle_returns (orderly : w.Orderly shut) (records : w.Records) {depth : Nat}
    (enough : (w.storeAt (w.trackerAt t).store).trackers.length < depth)
    (affected : List String) :
    Yields (runCycle (callbacks depth) t affected w) fun _ _ => True := by
  rw [runCycle_apply _ rfl]
  split
  · exact ⟨_, _, rfl, trivial⟩
  have raised : Changes shut w ((w.afterPasses (w.trackerAt t).store t affected).updateTracker t
      fun tracker => { tracker with isAnnouncing := true }) :=
    (Course.orderly shut).trans (afterPasses_leads t affected) (announcing_leads t true _)
  have told : Yields ((record (callbacks depth) (w.trackerAt t).store
      (w.cycleAt (w.trackerAt t).store t affected).cleared).ensuring
        (·.updateTracker t fun tracker => { tracker with isAnnouncing := false })
      ((w.afterPasses (w.trackerAt t).store t affected).updateTracker t
        fun tracker => { tracker with isAnnouncing := true })) fun _ _ => True := by
    refine .ensuring (record_returns (raised.orderly orderly)
      ⟨records.scripts, records.watchScripts⟩ ?_ _)
    have passed := storeAt_updateStore w (w.trackerAt t).store
      (·.remove (w.cycleAt (w.trackerAt t).store t affected).cleared)
    exact Nat.lt_of_le_of_lt (Nat.le_of_eq (congrArg (·.trackers.length) passed)) enough
  exact told.bind fun _ _ _ => .pure trivial

theorem createTracker_returns (orderly : w.Orderly shut) (records : w.Records) {depth store : Nat}
    (enough : (w.storeAt store).trackers.length < depth) (fields : List Field) :
    Yields (createTracker (callbacks depth) store fields w) fun _ _ => True := by
  have made := trackerAt_updateTracker w w.trackers.fresh fun _ => Tracker.ofFields store fields
  have ran : Yields (runCycle (callbacks depth) w.trackers.fresh (Conditions.ofFields fields).names
      (w.updateTracker w.trackers.fresh fun _ => Tracker.ofFields store fields))
      fun _ _ => True := by
    refine runCycle_returns (orderly.create store fields)
      ⟨records.scripts, records.watchScripts⟩ ?_ _
    rw [made]
    exact enough
  rw [createTracker_apply]
  exact ran.discard.bind fun _ _ _ => .pure trivial

end Workspace

end Formwork
