import Formwork.Proofs.Host.Informing
import Formwork.Proofs.Session.Switching
import Formwork.Proofs.Store.Books

/-! # Functions that take notes

Where functions of a host merely take notes and return, nobody fails who is told of a change,
however trackers make one another react: each that tells of removed values is deaf until it is done,
so there are never more of them in one another than listen to the store.
-/

namespace Formwork

open Effect

namespace Workspace

variable {hooks : Hooks} {functions : HostFunctions} {w w' w'' : Workspace} {s t depth : Nat}

/-- The same listeners are told of changes of a store, and the same trackers react. -/
structure Undisturbed (s : Nat) (w w' : Workspace) : Prop where
  listeners : (w'.storeAt s).listeners = (w.storeAt s).listeners
  store : ∀ t, (w'.trackerAt t).store = (w.trackerAt t).store
  announcing : ∀ t, (w'.trackerAt t).isAnnouncing = (w.trackerAt t).isAnnouncing

namespace Undisturbed

theorem refl (s : Nat) (w : Workspace) : Undisturbed s w w := ⟨rfl, fun _ => rfl, fun _ => rfl⟩

theorem trans (h : Undisturbed s w w') (h' : Undisturbed s w' w'') : Undisturbed s w w'' :=
  ⟨h'.listeners.trans h.listeners, fun t => (h'.store t).trans (h.store t),
    fun t => (h'.announcing t).trans (h.announcing t)⟩

theorem of_apart (apart : w.Apart w') : Undisturbed s w w' := by
  have tracker (t : Nat) : w'.trackerAt t = w.trackerAt t := by
    rw [trackerAt, trackerAt, apart.trackers]
  refine ⟨?_, fun t => by rw [tracker], fun t => by rw [tracker]⟩
  rw [storeAt, storeAt, apart.stores]

theorem updateStore (f : Store → Store)
    (listeners : (f (w.storeAt s)).listeners = (w.storeAt s).listeners) :
    Undisturbed s w (w.updateStore s f) :=
  ⟨by rw [storeAt_updateStore, listeners], fun _ => rfl, fun _ => rfl⟩

theorem updateTracker (f : Tracker → Tracker)
    (store : (f (w.trackerAt t)).store = (w.trackerAt t).store)
    (announcing : (f (w.trackerAt t)).isAnnouncing = (w.trackerAt t).isAnnouncing) :
    Undisturbed s w (w.updateTracker t f) := by
  refine ⟨rfl, fun other => ?_, fun other => ?_⟩ <;> by_cases same : other = t
  · rw [same, trackerAt_updateTracker, store]
  · rw [trackerAt_updateTracker_of_ne w same]
  · rw [same, trackerAt_updateTracker, announcing]
  · rw [trackerAt_updateTracker_of_ne w same]

theorem afterPasses (t : Nat) (affected : List String) :
    Undisturbed s w (w.afterPasses s t affected) := by
  have removed : Undisturbed s w (w.updateStore s (·.remove (w.cycleAt s t affected).cleared)) :=
    .updateStore _ rfl
  exact (removed.trans (.of_apart (addNotices_apart _ _))).trans (.updateTracker _ rfl rfl)

end Undisturbed

/-- The trackers that listen to a store are over it. -/
def Follow (w : Workspace) (s : Nat) : Prop :=
  ∀ t, .tracker t ∈ (w.storeAt s).listeners → (w.trackerAt t).store = s

/-- How many listeners of a store are trackers that could react. -/
def alert (w : Workspace) (s : Nat) : Nat :=
  (w.storeAt s).trackers.countP fun t => !(w.trackerAt t).isAnnouncing

theorem Follow.of_undisturbed (follow : w.Follow s) (h : Undisturbed s w w') : w'.Follow s := by
  intro t listed
  rw [h.listeners] at listed
  exact (h.store t).trans (follow t listed)

theorem alert_of_undisturbed (h : Undisturbed s w w') : w'.alert s = w.alert s := by
  simp only [alert, Store.trackers, h.listeners, h.announcing]

theorem alert_raised (w : Workspace) (t : Nat) : ∀ other ∈ (w.storeAt s).trackers,
    (!((w.announcing t true).trackerAt other).isAnnouncing) = true →
      (!(w.trackerAt other).isAnnouncing) = true := by
  intro other _ still
  by_cases same : other = t
  · rw [same, trackerAt_announcing] at still
    cases still
  · rwa [announcing, trackerAt_updateTracker_of_ne w same] at still

theorem alert_raised_le (w : Workspace) (s t : Nat) : (w.announcing t true).alert s ≤ w.alert s :=
  List.countP_mono_left (alert_raised w t)

theorem alert_raised_lt (listed : t ∈ (w.storeAt s).trackers)
    (quiet : (w.trackerAt t).isAnnouncing = false) :
    (w.announcing t true).alert s < w.alert s := by
  refine Cycle.countP_lt (alert_raised w t) listed ?_ ?_
  · rw [trackerAt_announcing]
    rfl
  · rw [quiet]
    rfl

end Workspace

open Workspace

theorem Routine.Returns.all {routine : Routine} (returns : routine.Returns)
    {allowed : Call → Prop} : routine.All allowed := by
  induction routine with
  | done => trivial
  | own change apart next ih => exact fun w => ih w (returns w)
  | fail fault => cases returns
  | make call next => cases returns

theorem HostFunctions.Return.all {functions : HostFunctions} (returns : functions.Return)
    {allowed : Call → Prop} : functions.All allowed :=
  ⟨fun name names values => (returns.changed name names values).all,
    fun name map => (returns.shown name map).all⟩

theorem Routine.Returns.runs {routine : Routine} (returns : routine.Returns) (hooks : Hooks)
    (base s : Nat) (w : Workspace) :
    Yields (routine.run hooks base w) fun _ after => Undisturbed s w after := by
  induction routine generalizing w with
  | done => exact .pure (.refl s w)
  | own change apart next ih =>
      exact (ih _ (returns _) _).mono fun _ _ later => (Undisturbed.of_apart (apart w)).trans later
  | fail fault => cases returns
  | make call next => cases returns

namespace Workspace

variable {hooks : Hooks} {functions : HostFunctions} {w : Workspace} {s t depth bound : Nat}

/-- Telling of changed fields goes well where fewer trackers than this can react. -/
def TellsBelow (hooks : Hooks) (s bound : Nat) : Prop :=
  ∀ w names, w.Follow s → w.alert s < bound →
    Yields (notify hooks s names w) fun _ after => Undisturbed s w after

theorem record_tells (tells : TellsBelow hooks s bound) (follow : w.Follow s)
    (few : w.alert s < bound) (names : List String) :
    Yields (record hooks s names w) fun _ after => Undisturbed s w after := by
  have recorded : Undisturbed s w
      (w.updateStore s fun _ => ((w.storeAt s).record names).2) :=
    .updateStore _ (Store.listeners_record _ names)
  rw [record_apply]
  refine (tells _ _ (follow.of_undisturbed recorded) ?_).mono fun _ _ later => recorded.trans later
  rwa [alert_of_undisturbed recorded]

theorem runCycle_tells (tells : TellsBelow hooks s bound) (follows : (w.trackerAt t).store = s)
    (quiet : (w.trackerAt t).isAnnouncing = false) (follow : w.Follow s)
    (few : ∀ passed, Undisturbed s w passed → (passed.announcing t true).alert s < bound)
    (affected : List String) :
    Yields (runCycle hooks t affected w) fun _ after => Undisturbed s w after := by
  have passed : Undisturbed s w (w.afterPasses s t affected) := .afterPasses t affected
  rw [runCycle_apply hooks follows]
  split
  · exact ⟨_, _, rfl, passed⟩
  have apart (w : Workspace) (isAnnouncing : Bool) (other : Nat) :
      ((w.announcing t isAnnouncing).trackerAt other).store = (w.trackerAt other).store := by
    by_cases same : other = t
    · rw [same, trackerAt_announcing]
    · rw [announcing, trackerAt_updateTracker_of_ne w same]
  have following : ((w.afterPasses s t affected).announcing t true).Follow s := fun other listed =>
    (apart _ true other).trans (follow.of_undisturbed passed other listed)
  have told := record_tells tells following (few _ passed) (w.cycleAt s t affected).cleared
  refine (Yields.ensuring (told.mono fun _ between later => ?_)).bind fun _ _ done => .pure done
  show Undisturbed s w (between.announcing t false)
  refine ⟨later.listeners.trans passed.listeners, fun other => ?_, fun other => ?_⟩
  · rw [apart, later.store, apart, passed.store]
  · by_cases same : other = t
    · rw [same, trackerAt_announcing, quiet]
    · rw [announcing, trackerAt_updateTracker_of_ne between same, later.announcing, announcing,
        trackerAt_updateTracker_of_ne _ same, passed.announcing]

theorem callWatchers_tells
    (shown : ∀ name map w, Yields (hooks.shown name map w) fun _ after => Undisturbed s w after)
    (map : Visibility) (listeners : List String) (w : Workspace) :
    Yields (callWatchers hooks map listeners w) fun _ after => Undisturbed s w after := by
  induction listeners generalizing w with
  | nil => exact .pure (.refl s w)
  | cons listener rest ih =>
      exact (shown listener map w).bind fun _ between told =>
        (ih between).mono fun _ _ later => told.trans later

theorem react_tells (tells : TellsBelow hooks s bound)
    (shown : ∀ name map w, Yields (hooks.shown name map w) fun _ after => Undisturbed s w after)
    (follow : w.Follow s) (listed : .tracker t ∈ (w.storeAt s).listeners)
    (few : w.alert s ≤ bound) (quiet : (w.trackerAt t).isAnnouncing = false)
    (names : List String) :
    Yields (react hooks t names w) fun _ after => Undisturbed s w after := by
  rw [react_apply]
  split
  · exact ⟨(), w, rfl, .refl s w⟩
  have fewer (passed : Workspace) (h : Undisturbed s w passed) :
      (passed.announcing t true).alert s < bound := by
    refine Nat.lt_of_lt_of_le (alert_raised_lt ?_ ((h.announcing t).trans quiet)) ?_
    · exact Store.mem_trackers (h.listeners ▸ listed)
    · rwa [alert_of_undisturbed h]
  refine (runCycle_tells tells (follow t listed) quiet follow fewer _).bind
    fun answer between cycled => ?_
  unfold tellWatchers
  split
  · have noted := cycled.trans
      (.of_apart (addNotices_apart between [.visibilityChanged (Names.sorted answer.2)]))
    exact (callWatchers_tells shown answer.1 _ _).mono fun _ _ later => noted.trans later
  · exact .pure cycled

theorem callListeners_tells {start : Workspace} {names : List String} {listeners : List Listener}
    (each : ∀ listener ∈ listeners, ∀ values between, Undisturbed s start between →
      Yields (hooks.changed listener names values between) fun _ after =>
        Undisturbed s start after) (same : Undisturbed s start w) :
    Yields (callListeners hooks s names listeners w) fun _ after => Undisturbed s start after := by
  induction listeners generalizing w with
  | nil => exact .pure same
  | cons listener rest ih =>
      rw [callListeners_cons]
      exact (each listener List.mem_cons_self _ w same).bind fun _ between told =>
        ih (fun other member => each other (List.mem_cons_of_mem _ member)) told

end Workspace

/-- However trackers make one another react, telling of changed fields comes to an end. -/
theorem HostFunctions.Return.tells {functions : HostFunctions} (returns : functions.Return)
    (base s depth : Nat) :
    TellsBelow (functions.hooks base depth) s depth := by
  induction depth with
  | zero => exact fun _ _ _ few => absurd few (Nat.not_lt_zero _)
  | succ depth ih =>
      intro w names follow few
      rw [notify_apply]
      split
      · exact ⟨(), w, rfl, .refl s w⟩
      refine callListeners_tells (fun listener listed values between same => ?_) (.refl s w)
      cases listener with
      | host name =>
          exact ((returns.changed name names values).runs _ base s between).mono fun _ _ later =>
            same.trans later
      | tracker t =>
          show Yields (react (functions.hooks base depth) t names between) _
          rw [← same.listeners] at listed
          by_cases quiet : (between.trackerAt t).isAnnouncing = false
          · -- the tracker could react itself, so there is one more level to go
            have some : 0 < between.alert s :=
              List.countP_pos_iff.mpr ⟨t, Store.mem_trackers listed, by rw [quiet]; rfl⟩
            rw [alert_of_undisturbed same] at some
            obtain ⟨depth, rfl⟩ := Nat.exists_eq_add_one_of_ne_zero (show depth ≠ 0 by omega)
            have few : between.alert s ≤ depth + 1 := by
              rw [alert_of_undisturbed same]
              omega
            refine (react_tells ih (fun name map w => ?_) (follow.of_undisturbed same) listed few
              quiet names).mono fun _ _ later => same.trans later
            exact (returns.shown name map).runs _ base s w
          · have deaf : (between.trackerAt t).reactsTo names = [] :=
              if_pos (Bool.of_not_eq_false quiet)
            rw [react_nothing _ deaf]
            exact ⟨(), between, rfl, same⟩

namespace Workspace

variable {hooks : Hooks} {w : Workspace} {s t id bound : Nat} {shared : SharedSchema}
  {rules : Ruleset}

theorem createTracker_tells (tells : TellsBelow hooks s bound) (follow : w.Follow s)
    (few : (w.storeAt s).trackers.length < bound) (fields : List Field) :
    Yields (createTracker hooks s fields w) fun _ _ => True := by
  have made := trackerAt_updateTracker w w.trackers.fresh fun _ => Tracker.ofFields s fields
  have following :
      (w.updateTracker w.trackers.fresh fun _ => Tracker.ofFields s fields).Follow s := by
    intro t listed
    by_cases same : t = w.trackers.fresh
    · rw [same, made]
      rfl
    · rw [trackerAt_updateTracker_of_ne w same]
      exact follow t listed
  have fewer (passed : Workspace) (h : Undisturbed s
      (w.updateTracker w.trackers.fresh fun _ => Tracker.ofFields s fields) passed) :
      (passed.announcing w.trackers.fresh true).alert s < bound := by
    have raised := alert_raised_le passed s w.trackers.fresh
    rw [alert_of_undisturbed h] at raised
    exact Nat.lt_of_le_of_lt (Nat.le_trans raised List.countP_le_length) few
  have ran := runCycle_tells tells (congrArg Tracker.store made)
    (congrArg Tracker.isAnnouncing made) following fewer (Conditions.ofFields fields).names
  rw [createTracker_apply]
  exact (ran.mono fun _ _ _ => trivial).discard.bind fun _ _ _ => .pure trivial

theorem Booked.follow (booked : w.Booked) (s : Nat) : w.Follow s := by
  intro t listed
  have counted := List.count_pos_iff.mpr listed
  rw [booked.counted, due_tracker, attachment] at counted
  split at counted
  next attached => exact attached.2
  next => cases counted

theorem Booked.withRules (booked : w.Booked) (id : Nat) (shared : SharedSchema)
    (rules : Ruleset) : (w.withRules id shared rules).Booked := by
  have keeps := Booked.switchable
  have stopped := stopTracker_keeps keeps (w.sessionAt id).tracker _
    (keeps.apart (addNotices_apart w [.schemaChanged shared.schema.title]) booked)
  have schema : (w.withSchema id shared).Booked := keeps.session id _ stopped
  exact keeps.session id _ (keeps.apart (addNotices_apart _ _) schema)

/-- Another schema that compiles is taken, if nobody fails who is told of removed values. -/
theorem setSchema_tells (tells : TellsBelow hooks s bound) (booked : w.Booked)
    (follows : (w.sessionAt id).store = s) (few : (w.storeAt s).trackers.length < bound)
    (other : shared.isSame (w.sessionAt id).shared = false)
    (compiled : Ruleset.compile (w.sessionAt id).options shared.schema = .ok rules) :
    (setSchema hooks id shared w).1 = .ok true := by
  rw [setSchema_apply, other, compiled, follows]
  have follow := (booked.withRules id shared rules).follow s
  refine takeTracker_returns (createTracker_tells tells follow ?_ shared.schema.fields)
  exact Nat.lt_of_le_of_lt (w.listening_withSchema id s shared) few

end Workspace

end Formwork
