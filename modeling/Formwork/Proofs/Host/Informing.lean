import Formwork.Proofs.Host.Recording
import Formwork.Proofs.Host.Actions

/-! # Trackers that inform their listeners

Any number of trackers may listen to a store and make one another react. Where functions of the host
merely record, a tracker whose map becomes another in the course of this tells its listeners of
that map, and only listeners of trackers that listen to a store are told of anything.
-/

namespace Formwork

open Workspace Effect

namespace Workspace

variable {w w' w'' : Workspace} {t : Nat} {said more : List Event}

/-- A function of the host listens to a tracker that listens to a store. -/
def Watching (w : Workspace) (listener : String) : Prop :=
  ∃ s, ∃ id ∈ (w.storeAt s).trackers, listener ∈ (w.trackerAt id).listeners

/-- Who listens to what is as before, and of these events, which are new, only functions of the
    host that are watching are told a map. -/
structure Proceeds (w : Workspace) (said : List Event) (w' : Workspace) : Prop where
  records : w'.Records
  sessions : w'.sessions = w.sessions
  session : w'.session = w.session
  watches : w'.watches = w.watches
  trackers : ∀ s, (w'.storeAt s).trackers = (w.storeAt s).trackers
  listeners : ∀ id, (w'.trackerAt id).listeners = (w.trackerAt id).listeners
  events : w'.events = w.events ++ said
  watching : ∀ listener map, Event.shown listener map ∈ said → w.Watching listener

namespace Proceeds

theorem watching_iff (h : w.Proceeds said w') (listener : String) :
    w'.Watching listener ↔ w.Watching listener := by
  simp only [Watching, h.trackers, h.listeners]

theorem sessionAt (h : w.Proceeds said w') (id : Nat) : w'.sessionAt id = w.sessionAt id := by
  rw [Workspace.sessionAt, Workspace.sessionAt, h.sessions]

theorem refl (records : w.Records) : w.Proceeds [] w :=
  ⟨records, rfl, rfl, rfl, fun _ => rfl, fun _ => rfl, (List.append_nil _).symm, nofun⟩

theorem trans (h : w.Proceeds said w') (h' : w'.Proceeds more w'') :
    w.Proceeds (said ++ more) w'' where
  records := h'.records
  sessions := h'.sessions.trans h.sessions
  session := h'.session.trans h.session
  watches := h'.watches.trans h.watches
  trackers := fun s => (h'.trackers s).trans (h.trackers s)
  listeners := fun id => (h'.listeners id).trans (h.listeners id)
  events := by rw [h'.events, h.events, List.append_assoc]
  watching := fun listener map member => by
    rcases List.mem_append.mp member with early | late
    · exact h.watching listener map early
    · exact (h.watching_iff listener).mp (h'.watching listener map late)

theorem updateStore (records : w.Records) (s : Nat) {f : Store → Store}
    (trackers : (f (w.storeAt s)).trackers = (w.storeAt s).trackers) :
    w.Proceeds [] (w.updateStore s f) := by
  refine ⟨⟨records.scripts, records.watchScripts⟩, rfl, rfl, rfl, fun other => ?_, fun _ => rfl,
    (List.append_nil _).symm, nofun⟩
  by_cases same : other = s
  · rw [same, storeAt_updateStore, trackers]
  · rw [storeAt_updateStore_of_ne w same]

theorem updateTracker (records : w.Records) (id : Nat) {f : Tracker → Tracker}
    (listeners : (f (w.trackerAt id)).listeners = (w.trackerAt id).listeners) :
    w.Proceeds [] (w.updateTracker id f) := by
  refine ⟨⟨records.scripts, records.watchScripts⟩, rfl, rfl, rfl, fun _ => rfl, fun other => ?_,
    (List.append_nil _).symm, nofun⟩
  by_cases same : other = id
  · rw [same, trackerAt_updateTracker, listeners]
  · rw [trackerAt_updateTracker_of_ne w same]

theorem logs (h : w.Logs said w')
    (watching : ∀ listener map, Event.shown listener map ∈ said → w.Watching listener) :
    w.Proceeds said w' :=
  ⟨h.records, h.toNotes.sessions, h.toNotes.session,
    h.toNotes.sameButForms.reads (·.watches) fun _ => rfl,
    fun s => by rw [h.storeAt], fun id => by rw [h.trackerAt], h.said, watching⟩

theorem addNotices (records : w.Records) (notices : List Notice) :
    w.Proceeds [] (w.addNotices notices) :=
  .logs (.nothing (records.addNotices notices) rfl) nofun

end Proceeds

/-- Functions of the host merely record, and the tracker has a map for its conditions. -/
structure Able (t : Nat) (w : Workspace) : Prop where
  records : w.Records
  formed : (w.trackerAt t).Formed

/-- The tracker informs its listeners: if its map becomes another, each of them is told of that.
    While it is announcing the map stays. -/
structure Informs (t : Nat) (w : Workspace) (said : List Event) (w' : Workspace) : Prop
    extends Proceeds w said w' where
  formed : (w'.trackerAt t).Formed
  announcing : (w'.trackerAt t).isAnnouncing = (w.trackerAt t).isAnnouncing
  deaf : (w.trackerAt t).isAnnouncing = true → (w'.trackerAt t).map = (w.trackerAt t).map
  told : (w'.trackerAt t).map ≠ (w.trackerAt t).map →
    ∀ listener ∈ (w.trackerAt t).listeners, Event.shown listener (w'.trackerAt t).map ∈ said

namespace Informs

theorem able (h : w.Informs t said w') : w'.Able t := ⟨h.records, h.formed⟩

theorem trans (h : w.Informs t said w') (h' : w'.Informs t more w'') :
    w.Informs t (said ++ more) w'' where
  toProceeds := h.toProceeds.trans h'.toProceeds
  formed := h'.formed
  announcing := h'.announcing.trans h.announcing
  deaf := fun announcing =>
    (h'.deaf (h.announcing.trans announcing)).trans (h.deaf announcing)
  told := fun other listener member => by
    by_cases later : (w''.trackerAt t).map = (w'.trackerAt t).map
    · rw [later] at other ⊢
      exact List.mem_append_left _ (h.told other listener member)
    · exact List.mem_append_right _ (h'.told later listener (h.listeners t ▸ member))

theorem same (able : w.Able t) (h : w.Proceeds said w')
    (tracker : w'.trackerAt t = w.trackerAt t) : w.Informs t said w' :=
  ⟨h, tracker ▸ able.formed, by rw [tracker], fun _ => by rw [tracker],
    fun other => absurd (by rw [tracker]) other⟩

theorem refl (able : w.Able t) : w.Informs t [] w := same able (.refl able.records) rfl

theorem updateStore (able : w.Able t) (s : Nat) {f : Store → Store}
    (trackers : (f (w.storeAt s)).trackers = (w.storeAt s).trackers) :
    w.Informs t [] (w.updateStore s f) :=
  same able (.updateStore able.records s trackers) rfl

theorem addNotices (able : w.Able t) (notices : List Notice) :
    w.Informs t [] (w.addNotices notices) :=
  same able (.addNotices able.records notices) rfl

end Informs

end Workspace

/-- Whoever is called, if this succeeds, lets the tracker inform its listeners. Trackers are called
    only if they listen to a store. -/
structure Hooks.Inform (hooks : Hooks) (t : Nat) : Prop where
  changed {w w' : Workspace} (able : w.Able t) {listener : Listener}
    (attached : ∀ id, listener = .tracker id → ∃ s, id ∈ (w.storeAt s).trackers)
    (names : List String) (values : Entries Value)
    (ran : hooks.changed listener names values w = (.ok (), w')) : ∃ said, w.Informs t said w'
  shown {w w' : Workspace} (records : w.Records) (listener : String) (map : Visibility)
    (ran : hooks.shown listener map w = (.ok (), w')) : w.Logs [.shown listener map] w'

namespace Workspace

variable {w w' : Workspace} {hooks : Hooks} {s t id : Nat} {names : List String}

theorem callListeners_informs (inform : hooks.Inform t) (able : w.Able t)
    {listeners : List Listener}
    (attached : ∀ id, .tracker id ∈ listeners → id ∈ (w.storeAt s).trackers)
    (ran : callListeners hooks s names listeners w = (.ok (), w')) :
    ∃ said, w.Informs t said w' := by
  induction listeners generalizing w with
  | nil =>
      cases ran
      exact ⟨[], .refl able⟩
  | cons listener rest ih =>
      rw [callListeners_cons] at ran
      obtain ⟨_, between, first, later⟩ := ok_of_bind ran
      obtain ⟨said, informs⟩ := inform.changed able
        (fun id same => ⟨s, attached id (same ▸ List.mem_cons_self)⟩) _ _ first
      obtain ⟨more, informs'⟩ := ih informs.able (fun id member =>
        informs.trackers s ▸ attached id (List.mem_cons_of_mem _ member)) later
      exact ⟨said ++ more, informs.trans informs'⟩

theorem notify_informs (inform : hooks.Inform t) (able : w.Able t)
    (ran : notify hooks s names w = (.ok (), w')) : ∃ said, w.Informs t said w' := by
  rw [notify_apply] at ran
  split at ran
  · cases ran
    exact ⟨[], .refl able⟩
  · exact callListeners_informs inform able (fun id member => Store.mem_trackers member) ran

theorem record_informs (inform : hooks.Inform t) (able : w.Able t)
    (ran : record hooks s names w = (.ok (), w')) : ∃ said, w.Informs t said w' := by
  rw [record_apply] at ran
  have kept : w.Informs t [] (w.updateStore s fun _ => ((w.storeAt s).record names).2) :=
    .updateStore able s (Store.record_keeps _ names).2.1
  obtain ⟨said, informs⟩ := notify_informs inform kept.able ran
  exact ⟨_, kept.trans informs⟩

/-! ## Reacting -/

theorem callWatchers_ran (inform : hooks.Inform t) (records : w.Records) {map : Visibility}
    {listeners : List String} (ran : callWatchers hooks map listeners w = (.ok (), w')) :
    w.Logs (listeners.map fun listener => .shown listener map) w' := by
  induction listeners generalizing w with
  | nil =>
      cases ran
      exact .nothing (.refl records) rfl
  | cons listener rest ih =>
      obtain ⟨_, between, first, later⟩ := ok_of_bind ran
      have told := inform.shown records listener map first
      exact told.trans (ih told.records later)

/-- A tracker announces, or has announced, which values it removed. -/
def announcing (w : Workspace) (id : Nat) (isAnnouncing : Bool) : Workspace :=
  w.updateTracker id fun tracker => { tracker with isAnnouncing }

theorem afterPasses_proceeds (records : w.Records) (s id : Nat) (affected : List String) :
    w.Proceeds [] (w.afterPasses s id affected) := by
  have removed : w.Proceeds [] (w.updateStore s (·.remove (w.cycleAt s id affected).cleared)) :=
    .updateStore records s rfl
  have noted := removed.trans (.addNotices removed.records (w.cycleAt s id affected).notices)
  exact noted.trans (.updateTracker noted.records id rfl)

theorem trackerAt_announcing (w : Workspace) (id : Nat) (isAnnouncing : Bool) :
    (w.announcing id isAnnouncing).trackerAt id = { w.trackerAt id with isAnnouncing } :=
  trackerAt_updateTracker w id _

theorem announcing_proceeds (records : w.Records) (id : Nat) (isAnnouncing : Bool) :
    w.Proceeds [] (w.announcing id isAnnouncing) :=
  .updateTracker records id rfl

theorem announcing_other (able : w.Able t) (other : id ≠ t) (isAnnouncing : Bool) :
    w.Informs t [] (w.announcing id isAnnouncing) :=
  .same able (announcing_proceeds able.records id isAnnouncing)
    (trackerAt_updateTracker_of_ne w other.symm _)

theorem runCycle_other (inform : hooks.Inform t) (able : w.Able t) (other : id ≠ t)
    {affected : List String} {answer : Visibility × List String}
    (ran : runCycle hooks id affected w = (.ok answer, w')) : ∃ said, w.Informs t said w' := by
  have passed : w.Informs t [] (w.afterPasses (w.trackerAt id).store id affected) :=
    .same able (afterPasses_proceeds able.records _ id affected)
      (trackerAt_updateTracker_of_ne _ other.symm _)
  rw [runCycle_apply hooks rfl] at ran
  split at ran
  · cases ran
    exact ⟨[], passed⟩
  obtain ⟨_, lowered, announced, last⟩ := ok_of_bind ran
  cases last
  obtain ⟨between, told, rfl⟩ := ok_of_ensuring announced
  have raised := passed.trans (announcing_other passed.able other true)
  obtain ⟨said, informs⟩ := record_informs inform raised.able told
  have through := raised.trans informs
  exact ⟨_, through.trans (announcing_other through.able other false)⟩

/-- What a cycle of the tracker itself leaves behind. Its listeners are still to be told. -/
structure Cycled (t : Nat) (w : Workspace) (answer : Visibility × List String)
    (said : List Event) (w' : Workspace) : Prop extends Proceeds w said w' where
  formed : (w'.trackerAt t).Formed
  quiet : (w'.trackerAt t).isAnnouncing = false
  map : (w'.trackerAt t).map = answer.1
  flipped : answer.2 = answer.1.flipped (w.trackerAt t).map
  names : answer.1.names = (w.trackerAt t).map.names

theorem runCycle_itself (inform : hooks.Inform t) (able : w.Able t)
    (quiet : (w.trackerAt t).isAnnouncing = false) {affected : List String}
    {answer : Visibility × List String}
    (ran : runCycle hooks t affected w = (.ok answer, w')) :
    ∃ said, w.Cycled t answer said w' := by
  have distinct := able.formed.distinct
  have fits := able.formed.fits
  have names : (w.cycleAt (w.trackerAt t).store t affected).map.names =
      (w.trackerAt t).map.names := Cycle.names_settle fits distinct
  have passed := afterPasses_proceeds able.records (w.trackerAt t).store t affected
  have evaluated : (w.afterPasses (w.trackerAt t).store t affected).trackerAt t =
      { w.trackerAt t with map := (w.cycleAt (w.trackerAt t).store t affected).map } :=
    trackerAt_updateTracker _ _ _
  have formed : ((w.afterPasses (w.trackerAt t).store t affected).trackerAt t).Formed := by
    rw [evaluated]
    exact ⟨distinct, Cycle.settle_fits distinct fits⟩
  rw [runCycle_apply hooks rfl] at ran
  split at ran
  · cases ran
    refine ⟨[], passed, formed, ?_, ?_, rfl, names⟩ <;> rw [evaluated]
    exact quiet
  obtain ⟨_, lowered, announced, last⟩ := ok_of_bind ran
  cases last
  obtain ⟨between, told, rfl⟩ := ok_of_ensuring announced
  have raised := passed.trans (announcing_proceeds passed.records t true)
  have flag := (w.afterPasses (w.trackerAt t).store t affected).trackerAt_announcing t true
  -- while it is announcing, nothing that the others remove changes its map
  obtain ⟨said, informs⟩ := record_informs inform
    ⟨raised.records, by rw [flag]; exact ⟨formed.distinct, formed.fits⟩⟩ told
  have deaf := informs.deaf (by rw [flag])
  have through := raised.trans informs.toProceeds
  have last := between.trackerAt_announcing t false
  have proceeds := through.trans (announcing_proceeds through.records t false)
  show ∃ said, w.Cycled t _ said (between.announcing t false)
  refine ⟨_, proceeds, ?_, ?_, ?_, rfl, names⟩ <;> rw [last]
  · exact ⟨informs.formed.distinct, informs.formed.fits⟩
  · show (between.trackerAt t).map = _
    rw [deaf, flag, evaluated]

/-- What telling its listeners of a cycle's answer leaves behind. -/
structure HasTold (id : Nat) (w : Workspace) (answer : Visibility × List String)
    (said : List Event) (w' : Workspace) : Prop extends Proceeds w said w' where
  tracker : ∀ other, w'.trackerAt other = w.trackerAt other
  told : answer.2 ≠ [] → ∀ listener ∈ (w.trackerAt id).listeners,
    Event.shown listener answer.1 ∈ said

theorem tellWatchers_ran (inform : hooks.Inform t) (records : w.Records)
    (attached : ∃ s, id ∈ (w.storeAt s).trackers) {answer : Visibility × List String}
    (ran : tellWatchers hooks id answer w = (.ok (), w')) :
    ∃ said, w.HasTold id answer said w' := by
  unfold tellWatchers at ran
  split at ran
  · have noted := records.addNotices [.visibilityChanged (Names.sorted answer.2)]
    have told := (Logs.nothing noted rfl).trans (callWatchers_ran inform noted.records ran)
    refine ⟨_, .logs told fun listener map member => ?_, told.trackerAt,
      fun _ listener member => ?_⟩
    · obtain ⟨s, attached⟩ := attached
      obtain ⟨_, present, same⟩ := List.mem_map.mp member
      cases same
      exact ⟨s, id, attached, present⟩
    · exact List.mem_map.mpr ⟨listener, member, rfl⟩
  next nothing =>
    cases ran
    have empty : answer.2 = [] := by simpa using nothing
    exact ⟨[], .refl records, fun _ => rfl, fun more => absurd empty more⟩

theorem react_informs (inform : hooks.Inform t) (able : w.Able t)
    (attached : ∃ s, id ∈ (w.storeAt s).trackers)
    (ran : react hooks id names w = (.ok (), w')) : ∃ said, w.Informs t said w' := by
  rw [react_apply] at ran
  split at ran
  · cases ran
    exact ⟨[], .refl able⟩
  next awake =>
  obtain ⟨answer, between, cycled, telling⟩ := ok_of_bind ran
  by_cases same : id = t
  · -- the cycle alone does not inform; it does together with the telling after it
    subst same
    have quiet : (w.trackerAt id).isAnnouncing = false := by
      by_contra loud
      exact awake (by simp [Tracker.reactsTo, loud])
    obtain ⟨said, cycled⟩ := runCycle_itself inform able quiet cycled
    obtain ⟨more, tells⟩ := tellWatchers_ran inform cycled.records
      (attached.imp fun s member => cycled.trackers s ▸ member) telling
    have distinct : answer.1.names.Nodup := cycled.names ▸ able.formed.fits.distinct
    refine ⟨said ++ more, cycled.toProceeds.trans tells.toProceeds, ?_, ?_, ?_, ?_⟩
    · exact tells.tracker id ▸ cycled.formed
    · rw [tells.tracker, cycled.quiet, quiet]
    · intro loud
      rw [quiet] at loud
      cases loud
    · rw [tells.tracker, cycled.map]
      intro other listener member
      have flipped : answer.2 ≠ [] := by
        rw [cycled.flipped]
        exact mt (Visibility.flipped_eq_nil_iff cycled.names distinct).mp other
      refine List.mem_append_right _ (tells.told flipped listener ?_)
      exact cycled.listeners id ▸ member
  · obtain ⟨said, informs⟩ := runCycle_other inform able same cycled
    obtain ⟨more, tells⟩ := tellWatchers_ran inform informs.records
      (attached.imp fun s member => informs.trackers s ▸ member) telling
    exact ⟨said ++ more, informs.trans (.same informs.able tells.toProceeds (tells.tracker t))⟩

/-! ## Callbacks and operations of stores -/

theorem callbacks_inform (depth : Nat) (t : Nat) : (callbacks depth).Inform t := by
  induction depth with
  | zero => exact ⟨fun _ _ _ _ _ ran => (nomatch ran), fun _ _ _ ran => (nomatch ran)⟩
  | succ depth ih =>
      refine ⟨fun {w w'} able {listener} attached names values ran => ?_,
        fun {w w'} records listener map ran => (shown_host depth records listener map).of_eq ran⟩
      cases listener with
      | tracker id => exact react_informs ih able (attached id rfl) ran
      | host name =>
          have told := (changed_host depth able.records name names values).of_eq ran
          refine ⟨_, .same able (.logs told fun _ _ member => ?_) (told.trackerAt t)⟩
          cases List.mem_singleton.mp member

theorem setValues_informs (inform : hooks.Inform t) (able : w.Able t) {values : Entries Value}
    (ran : setValues hooks s values w = (.ok (), w')) : ∃ said, w.Informs t said w' := by
  rw [setValues_apply] at ran
  have written : w.Informs t [] (w.updateStore s (·.write values)) := .updateStore able s rfl
  obtain ⟨said, informs⟩ := record_informs inform written.able ran
  exact ⟨_, written.trans informs⟩

theorem closeBatch_informs (inform : hooks.Inform t) (able : w.Able t)
    (ran : closeBatch hooks s w = (.ok (), w')) : ∃ said, w.Informs t said w' := by
  rw [closeBatch_apply] at ran
  have closed : w.Informs t [] (w.updateStore s fun _ => (w.storeAt s).closeBatch.2) :=
    .updateStore able s (Store.closeBatch_keeps _).2.1
  obtain ⟨said, informs⟩ := notify_informs inform closed.able ran
  exact ⟨_, closed.trans informs⟩

theorem without_informs (able : w.Able t) (s : Nat) (names : List String) :
    w.Informs t [] (w.without s names) := by
  have dropped : w.Informs t [] (w.updateStore s (·.remove ((w.storeAt s).present names))) :=
    .updateStore able s rfl
  unfold without
  dsimp only
  split
  · exact dropped
  · exact dropped.trans (.addNotices dropped.able _)

theorem clear_informs (inform : hooks.Inform t) (able : w.Able t) {telling : Bool}
    {removed : List String} (ran : clear hooks s names telling w = (.ok removed, w')) :
    ∃ said, w.Informs t said w' := by
  have dropped := without_informs able s names
  rw [clear_apply] at ran
  split at ran
  · obtain ⟨_, _, told, last⟩ := ok_of_bind ran
    cases last
    obtain ⟨said, informs⟩ := record_informs inform dropped.able told
    exact ⟨_, dropped.trans informs⟩
  · cases ran
    exact ⟨_, dropped⟩

end Workspace

end Formwork
