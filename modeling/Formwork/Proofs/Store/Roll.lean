import Formwork.Proofs.Session.Switching
import Formwork.Proofs.Store.Books

/-! # The roll of a store

A host has trackers over a store, some by themselves and some in sessions. A roll lists them, each
with whether it is to listen. Functions of the host that leave trackers alone do not touch it, so
what becomes of it in a call can be told from the call, and from whether it failed.
-/

namespace Formwork

open Effect

namespace Effect

variable {α β : Type}

/-- What a computation leaves behind if it succeeds, and what if it fails. -/
structure Ends (run : Except Fault α × Workspace) (fine : α → Workspace → Prop)
    (failed : Workspace → Prop) : Prop where
  fine : ∀ answer, run.1 = .ok answer → fine answer run.2
  failed : ∀ fault, run.1 = .error fault → failed run.2

namespace Ends

variable {w : Workspace} {fine : α → Workspace → Prop} {failed : Workspace → Prop}

theorem pure {answer : α} (holds : fine answer w) :
    Ends ((Pure.pure answer : Effect α) w) fine failed :=
  ⟨fun _ same => by cases same; exact holds, nofun⟩

theorem bind {first : Effect α} {next : α → Effect β} {ending : β → Workspace → Prop}
    (h : Ends (first w) fine failed)
    (rest : ∀ answer between, fine answer between → Ends (next answer between) ending failed) :
    Ends ((first >>= next) w) ending failed := by
  rcases ran : first w with ⟨fault | answer, between⟩
  · rw [ran] at h
    rw [bind_of_error ran]
    exact ⟨nofun, fun _ _ => h.failed fault rfl⟩
  · rw [ran] at h
    rw [bind_of_ok ran]
    exact rest answer between (h.fine answer rfl)

theorem mono {run : Except Fault α × Workspace} {others : α → Workspace → Prop}
    {lost : Workspace → Prop} (h : Ends run fine failed)
    (fine : ∀ answer after, fine answer after → others answer after)
    (failed : ∀ after, failed after → lost after) : Ends run others lost :=
  ⟨fun answer same => fine answer _ (h.fine answer same),
    fun fault same => failed _ (h.failed fault same)⟩

theorem of_keeps {action : Effect α} {holds : Workspace → Prop} (keeps : Keeps holds action)
    (held : holds w) : Ends (action w) (fun _ => holds) holds :=
  ⟨fun _ _ => keeps w held, fun _ _ => keeps w held⟩

end Ends

end Effect

namespace Workspace

variable {hooks : Hooks} {w w' : Workspace} {s t id : Nat} {on : Bool} {roll : List (Nat × Bool)}
  {table : Table Session} {shared : SharedSchema}

/-- The trackers of a roll are over a store, each of them listens if it says so, and no other
    tracker listens to the store. -/
structure Rolled (s : Nat) (roll : List (Nat × Bool)) (w : Workspace) : Prop where
  knows : ∀ entry ∈ roll, w.Knows entry.1
  store : ∀ entry ∈ roll, (w.trackerAt entry.1).store = s
  isActive : ∀ entry ∈ roll, (w.trackerAt entry.1).isActive = entry.2
  complete : ∀ t, (w.trackerAt t).isActive = true → (w.trackerAt t).store = s →
    t ∈ roll.map (·.1)
  distinct : (roll.map (·.1)).Nodup

namespace Rolled

theorem of_known (rolled : w.Rolled s roll) (knows : ∀ t, w.Knows t → w'.Knows t)
    (store : ∀ t, w.Knows t → (w'.trackerAt t).store = (w.trackerAt t).store)
    (isActive : ∀ t, w.Knows t → (w'.trackerAt t).isActive = (w.trackerAt t).isActive)
    (idle : ∀ t, ¬w.Knows t → (w'.trackerAt t).isActive = false) : w'.Rolled s roll where
  knows entry listed := knows _ (rolled.knows entry listed)
  store entry listed := (store _ (rolled.knows entry listed)).trans (rolled.store entry listed)
  isActive entry listed :=
    (isActive _ (rolled.knows entry listed)).trans (rolled.isActive entry listed)
  complete t active here := by
    by_cases known : w.Knows t
    · rw [isActive t known] at active
      rw [store t known] at here
      exact rolled.complete t active here
    · cases active.symm.trans (idle t known)
  distinct := rolled.distinct

theorem of_trackers (rolled : w.Rolled s roll) (same : w'.trackers = w.trackers) :
    w'.Rolled s roll := by
  have tracker (t : Nat) : w'.trackerAt t = w.trackerAt t := by rw [trackerAt, trackerAt, same]
  refine rolled.of_known (fun t known => ?_) (fun t _ => by rw [tracker])
    (fun t _ => by rw [tracker]) fun t unknown => ?_
  · rwa [Knows, same]
  · rw [tracker, trackerAt_of_not_knows unknown]
    rfl

theorem updateTracker (rolled : w.Rolled s roll) (f : Tracker → Tracker)
    (store : w.Knows t → (f (w.trackerAt t)).store = (w.trackerAt t).store)
    (isActive : (f (w.trackerAt t)).isActive = (w.trackerAt t).isActive) :
    (w.updateTracker t f).Rolled s roll := by
  have elsewhere {other : Nat} (apart : other ≠ t) := trackerAt_updateTracker_of_ne w apart f
  refine rolled.of_known (fun _ known => known.updateTracker t f) (fun other known => ?_)
    (fun other _ => ?_) fun other unknown => ?_ <;> by_cases same : other = t
  · subst same
    rw [trackerAt_updateTracker, store known]
  · rw [elsewhere same]
  · rw [same, trackerAt_updateTracker, isActive]
  · rw [elsewhere same]
  · rw [same, trackerAt_updateTracker, isActive, ← same, trackerAt_of_not_knows unknown]
    rfl
  · rw [elsewhere same, trackerAt_of_not_knows unknown]
    rfl

theorem create (rolled : w.Rolled s roll) (base : Nat) (fields : List Field) :
    (w.updateTracker w.trackers.fresh fun _ => Tracker.ofFields base fields).Rolled s roll := by
  refine rolled.updateTracker _ (fun known => absurd known w.not_knows_fresh) ?_
  rw [trackerAt_of_not_knows w.not_knows_fresh]
  rfl

theorem perm {more : List (Nat × Bool)} (rolled : w.Rolled s roll) (same : roll.Perm more) :
    w.Rolled s more where
  knows entry listed := rolled.knows entry (same.mem_iff.mpr listed)
  store entry listed := rolled.store entry (same.mem_iff.mpr listed)
  isActive entry listed := rolled.isActive entry (same.mem_iff.mpr listed)
  complete t active here := (same.map _).mem_iff.mp (rolled.complete t active here)
  distinct := (same.map _).nodup_iff.mp rolled.distinct

theorem forget (rolled : w.Rolled s ((t, false) :: roll)) : w.Rolled s roll where
  knows entry listed := rolled.knows entry (List.mem_cons_of_mem _ listed)
  store entry listed := rolled.store entry (List.mem_cons_of_mem _ listed)
  isActive entry listed := rolled.isActive entry (List.mem_cons_of_mem _ listed)
  complete other active here := by
    refine (List.mem_cons.mp (rolled.complete other active here)).resolve_left fun same => ?_
    have idle := rolled.isActive (t, false) List.mem_cons_self
    rw [same] at active
    cases active.symm.trans idle
  distinct := (List.nodup_cons.mp rolled.distinct).2

theorem enlist (rolled : w.Rolled s roll) (fields : List Field) :
    (w.updateTracker w.trackers.fresh fun _ => Tracker.ofFields s fields).Rolled s
      ((w.trackers.fresh, false) :: roll) := by
  have created := rolled.create s fields
  have made := trackerAt_updateTracker w w.trackers.fresh fun _ => Tracker.ofFields s fields
  refine ⟨List.forall_mem_cons.mpr ⟨Table.mem_keys_write.mpr (.inl rfl), created.knows⟩,
    List.forall_mem_cons.mpr ⟨congrArg _ made, created.store⟩,
    List.forall_mem_cons.mpr ⟨congrArg _ made, created.isActive⟩,
    fun t active here => List.mem_cons_of_mem _ (created.complete t active here),
    List.nodup_cons.mpr ⟨fun member => ?_, rolled.distinct⟩⟩
  obtain ⟨entry, listed, same⟩ := List.mem_map.mp member
  exact w.not_knows_fresh ((congrArg w.Knows same).mp (rolled.knows entry listed))

theorem switch (rolled : w.Rolled s ((t, on) :: roll)) (isActive : Bool) :
    (w.updateTracker t fun tracker => { tracker with isActive }).Rolled s
      ((t, isActive) :: roll) := by
  have switched := trackerAt_updateTracker w t fun tracker => { tracker with isActive }
  have kept {other : Nat} (apart : other ≠ t) :=
    trackerAt_updateTracker_of_ne w apart fun tracker => { tracker with isActive }
  obtain ⟨known, rest⟩ := List.forall_mem_cons.mp rolled.knows
  obtain ⟨here, stores⟩ := List.forall_mem_cons.mp rolled.store
  obtain ⟨-, active⟩ := List.forall_mem_cons.mp rolled.isActive
  obtain ⟨absent, -⟩ := List.nodup_cons.mp rolled.distinct
  have apart {entry : Nat × Bool} (listed : entry ∈ roll) : entry.1 ≠ t := fun same =>
    absent (List.mem_map.mpr ⟨entry, listed, same⟩)
  refine ⟨?_, ?_, ?_, fun other listens follows => ?_, rolled.distinct⟩
  · exact List.forall_mem_cons.mpr ⟨known.updateTracker _ _, fun entry listed =>
      (rest entry listed).updateTracker _ _⟩
  · refine List.forall_mem_cons.mpr ⟨by rw [switched]; exact here, fun entry listed => ?_⟩
    rw [kept (apart listed)]
    exact stores entry listed
  · refine List.forall_mem_cons.mpr ⟨by rw [switched], fun entry listed => ?_⟩
    rw [kept (apart listed)]
    exact active entry listed
  · by_cases same : other = t
    · exact List.mem_cons.mpr (.inl same)
    · rw [kept same] at listens follows
      exact rolled.complete other listens follows

theorem start (rolled : w.Rolled s ((t, on) :: roll)) :
    (startTracker t w).2.Rolled s ((t, true) :: roll) := by
  have same := rolled.isActive (t, on) List.mem_cons_self
  rw [startTracker_apply]
  split
  next active =>
    cases same.symm.trans active
    exact rolled
  next =>
    have subscribed : (w.updateStore (w.trackerAt t).store (·.subscribe (.tracker t))).Rolled s
      ((t, on) :: roll) := rolled.of_trackers rfl
    exact subscribed.switch true

theorem stop (rolled : w.Rolled s ((t, on) :: roll)) :
    (stopTracker t w).2.Rolled s ((t, false) :: roll) := by
  have same := rolled.isActive (t, on) List.mem_cons_self
  rw [stopTracker_apply]
  split
  next =>
    have removed : (w.updateStore (w.trackerAt t).store (·.unsubscribe (.tracker t))).Rolled s
      ((t, on) :: roll) := rolled.of_trackers rfl
    exact removed.switch false
  next idle =>
    cases same.symm.trans (Bool.not_eq_true _ ▸ idle)
    exact rolled

theorem activeOn_perm (rolled : w.Rolled s roll) :
    (w.activeOn s).Perm ((roll.filter (·.2)).map (·.1)) := by
  have distinct : ((roll.filter (·.2)).map (·.1)).Nodup :=
    rolled.distinct.sublist (List.filter_sublist.map _)
  refine (List.perm_ext_iff_of_nodup (w.nodup_activeOn s) distinct).mpr fun t => ?_
  rw [mem_activeOn, List.mem_map]
  constructor
  · rintro ⟨active, here⟩
    obtain ⟨entry, listed, rfl⟩ := List.mem_map.mp (rolled.complete t active here)
    rw [rolled.isActive entry listed] at active
    exact ⟨entry, List.mem_filter.mpr ⟨listed, active⟩, rfl⟩
  · rintro ⟨entry, listed, rfl⟩
    obtain ⟨listed, on⟩ := List.mem_filter.mp listed
    exact ⟨(rolled.isActive entry listed).trans on, rolled.store entry listed⟩

end Rolled

/-! ## Calls that leave trackers alone -/

/-- A store has a certain roll, and there are certain sessions. -/
structure Steady (s : Nat) (roll : List (Nat × Bool)) (table : Table Session) (w : Workspace) :
    Prop extends Rolled s roll w where
  sessions : w.sessions = table

namespace Steady

theorem unmoved : Unmoved (Steady s roll table) where
  store _ _ _ steady := ⟨steady.of_trackers rfl, steady.sessions⟩
  tracker _ f store isActive steady :=
    ⟨steady.updateTracker f (fun _ => store) isActive, steady.sessions⟩
  create base fields steady := ⟨steady.create base fields, steady.sessions⟩
  apart apart steady :=
    ⟨steady.of_trackers apart.trackers, apart.sessions.trans steady.sessions⟩

theorem spared (retain : hooks.Retain (Steady s roll table)) {call : Call}
    (spares : call.sparesTrackers) (base : Nat) :
    Keeps (Steady s roll table) (call.perform hooks base) := by
  cases call with
  | subscribe handle listener =>
      intro w steady
      rw [perform_subscribe]
      split
      · exact steady
      · exact ⟨steady.of_trackers rfl, steady.sessions⟩
  | unsubscribe handle =>
      refine .answering (fun w steady => ?_) _
      rw [unsubscribe_apply]
      split
      · exact steady
      next subscription _ =>
        dsimp only
        split
        · exact steady
        · exact ⟨steady.of_trackers rfl, steady.sessions⟩
  | start | stop | openSession | setSchema | close => cases spares
  | _ => exact unmoved.calm retain rfl base

end Steady

end Workspace

open Workspace

/-- Whoever is called leaves alone which trackers listen, and which sessions there are. -/
def Hooks.SpareTrackers (hooks : Hooks) (s : Nat) : Prop :=
  ∀ roll table, hooks.Retain (Steady s roll table)

theorem HostFunctions.All.spareTrackers {functions : HostFunctions}
    (all : functions.All fun call => call.sparesTrackers) (s depth : Nat) :
    (functions.hooks s depth).SpareTrackers s := fun _ _ =>
  all.retain Steady.unmoved (fun _ retain _ spares => Steady.spared retain spares s) depth

/-! ## Calls that have a say -/

namespace Workspace

variable {hooks : Hooks} {w w' : Workspace} {s t id : Nat} {on : Bool} {roll : List (Nat × Bool)}
  {table : Table Session} {shared : SharedSchema}

theorem createTracker_number {fields : List Field}
    (made : (createTracker hooks s fields w).1 = .ok t) : t = w.trackers.fresh := by
  obtain ⟨after, ran⟩ : ∃ after, createTracker hooks s fields w = (.ok t, after) :=
    ⟨_, Prod.ext made rfl⟩
  rw [createTracker_apply] at ran
  obtain ⟨_, _, _, answered⟩ := ok_of_bind ran
  cases answered
  rfl

/-- A tracker that has been made does not listen, and one that could not be made is forgotten. -/
theorem createTracker_ends (spare : hooks.SpareTrackers s) (steady : w.Steady s roll table)
    (fields : List Field) : Ends (createTracker hooks s fields w)
      (fun t => Steady s ((t, false) :: roll) table) (Steady s roll table) := by
  have made : Steady s ((w.trackers.fresh, false) :: roll) table
      (createTracker hooks s fields w).2 :=
    createTracker_retained Steady.unmoved (spare _ _) fields
      ⟨steady.enlist fields, steady.sessions⟩
  refine ⟨fun t number => ?_, fun _ _ => ⟨made.forget, made.sessions⟩⟩
  rw [createTracker_number number]
  exact made

theorem startTracker_sessions (t : Nat) (w : Workspace) :
    (startTracker t w).2.sessions = w.sessions := by
  rw [startTracker_apply]
  split <;> rfl

theorem stopTracker_sessions (t : Nat) (w : Workspace) :
    (stopTracker t w).2.sessions = w.sessions := by
  rw [stopTracker_apply]
  split <;> rfl

theorem startTracker_ends (steady : w.Steady s ((t, on) :: roll) table)
    {failed : Workspace → Prop} :
    Ends (startTracker t w) (fun _ => Steady s ((t, true) :: roll) table) failed := by
  have started : (startTracker t w).2.Steady s ((t, true) :: roll) table :=
    ⟨steady.start, (startTracker_sessions t w).trans steady.sessions⟩
  refine ⟨fun _ _ => started, fun fault fails => ?_⟩
  rw [startTracker_apply] at fails
  cases fails

theorem createSession_ends (spare : hooks.SpareTrackers s) (steady : w.Steady s roll table)
    (shared : SharedSchema) (options : CompileOptions) :
    Ends (createSession hooks shared options s w)
      (fun session after => session.store = s ∧
        after.Steady s ((session.tracker, true) :: roll) table) (Steady s roll table) := by
  have compiled := Ends.of_keeps
    (compileRules_keeps Steady.unmoved options shared.schema) steady
  refine compiled.bind fun rules between steady => ?_
  refine (createTracker_ends spare steady _).bind fun t between steady => ?_
  exact (startTracker_ends steady).bind fun _ _ steady => .pure ⟨rfl, steady⟩

theorem joinSession_ends (spare : hooks.SpareTrackers s) (steady : w.Steady s roll table)
    (shared : SharedSchema) (options : CompileOptions) (initial : Entries Value) :
    Ends (joinSession hooks shared options s initial w)
      (fun session after => session.store = s ∧
        after.Steady s ((session.tracker, true) :: roll) table) (Steady s roll table) := by
  unfold joinSession
  split
  · have written := Ends.of_keeps (setValues_keeps Steady.unmoved (spare _ _) s initial) steady
    exact written.bind fun _ _ steady => createSession_ends spare steady shared options
  · exact createSession_ends spare steady shared options

/-- A session has a tracker over a store, and all others are as they were. -/
structure Gives (w : Workspace) (id s t : Nat) (w' : Workspace) : Prop where
  has : w'.HasSession id
  store : (w'.sessionAt id).store = s
  tracker : (w'.sessionAt id).tracker = t
  others : ∀ other, other ≠ id → w'.sessionAt other = w.sessionAt other
  known : ∀ other, w.HasSession other → w'.HasSession other

namespace Gives

theorem refl (has : w.HasSession id) :
    w.Gives id (w.sessionAt id).store (w.sessionAt id).tracker w :=
  ⟨has, rfl, rfl, fun _ _ => rfl, fun _ known => known⟩

theorem of_sessions {w'' : Workspace} (h : w.Gives id s t w') (same : w''.sessions = w'.sessions) :
    w.Gives id s t w'' := by
  have session (other : Nat) : w''.sessionAt other = w'.sessionAt other := by
    rw [sessionAt, sessionAt, same]
  have has (other : Nat) (known : w'.HasSession other) : w''.HasSession other := by
    rwa [HasSession, same]
  exact ⟨has _ h.has, by rw [session, h.store], by rw [session, h.tracker],
    fun other apart => (session other).trans (h.others other apart),
    fun other known => has _ (h.known other known)⟩

/-- The session is put back, with another tracker perhaps. -/
theorem updateSession (h : w.Gives id s t w') (f : Session → Session)
    (store : (f (w'.sessionAt id)).store = (w'.sessionAt id).store) :
    w.Gives id s (f (w'.sessionAt id)).tracker (w'.updateSession id f) where
  has := Table.mem_keys_write.mpr (.inl rfl)
  store := by rw [Workspace.updateSession, sessionAt_putSession, store, h.store]
  tracker := by rw [Workspace.updateSession, sessionAt_putSession]
  others other apart :=
    (sessionAt_putSession_of_ne w' apart (f (w'.sessionAt id))).trans (h.others other apart)
  known other has := Table.mem_keys_write.mpr (.inr (h.known other has))

theorem withSchema (has : w.HasSession id) (shared : SharedSchema) :
    w.Gives id (w.sessionAt id).store (w.sessionAt id).tracker (w.withSchema id shared) := by
  have stopped : w.Gives id (w.sessionAt id).store (w.sessionAt id).tracker
      (stopTracker (w.sessionAt id).tracker
        (w.addNotices [.schemaChanged shared.schema.title])).2 :=
    (refl has).of_sessions (stopTracker_sessions _ _)
  have given := stopped.updateSession (fun session => { session with shared }) rfl
  rwa [stopped.tracker] at given

theorem withRules (has : w.HasSession id) (shared : SharedSchema) (rules : Ruleset) :
    w.Gives id (w.sessionAt id).store (w.sessionAt id).tracker (w.withRules id shared rules) := by
  have noted : w.Gives id (w.sessionAt id).store (w.sessionAt id).tracker
      ((w.withSchema id shared).addNotices
        (Ruleset.compileNotices (w.sessionAt id).options shared.schema)) :=
    (withSchema has shared).of_sessions rfl
  have given := noted.updateSession (fun session => { session with rules }) rfl
  rwa [noted.tracker] at given

end Gives

theorem Rolled.withSchema (rolled : w.Rolled s (((w.sessionAt id).tracker, on) :: roll))
    (shared : SharedSchema) :
    (w.withSchema id shared).Rolled s (((w.sessionAt id).tracker, false) :: roll) := by
  have noted : (w.addNotices [.schemaChanged shared.schema.title]).Rolled s
      (((w.sessionAt id).tracker, on) :: roll) := rolled.of_trackers rfl
  exact noted.stop.of_trackers rfl

theorem takeTracker_ends {start : Workspace} (spare : hooks.SpareTrackers s)
    (rolled : w.Rolled s ((t, false) :: roll)) (given : start.Gives id s t w)
    (fields : List Field) :
    Ends (takeTracker hooks id s fields w)
      (fun another after => another = true ∧
        ∃ new, after.Rolled s ((new, true) :: roll) ∧ start.Gives id s new after)
      (fun after => after.Rolled s ((t, false) :: roll) ∧ start.Gives id s t after) := by
  have steady : w.Steady s ((t, false) :: roll) w.sessions := ⟨rolled, rfl⟩
  have created := (createTracker_ends spare steady fields).mono (fun _ _ made => made)
    fun after kept => And.intro kept.toRolled (given.of_sessions kept.sessions)
  refine created.bind fun new _ made => (startTracker_ends made).bind fun _ started steady => ?_
  have taken : Ends ((modify (·.updateSession id fun session =>
      { session with tracker := new }) : Effect Unit) started)
      (fun _ after => after.Rolled s ((new, true) :: roll) ∧ start.Gives id s new after)
      (fun after => after.Rolled s ((t, false) :: roll) ∧ start.Gives id s t after) := by
    have given := (given.of_sessions steady.sessions).updateSession
      (fun session => { session with tracker := new }) rfl
    -- the old tracker is given up, and need not be remembered
    have kept := (steady.perm (.swap _ _ _)).forget
    exact ⟨fun _ _ => ⟨kept.of_trackers rfl, given⟩, nofun⟩
  exact taken.bind fun _ after has => .pure ⟨rfl, new, has⟩

/-- With the schema that it has, a session goes on as it was. With another one it has a new tracker
    that listens, or has failed to get one and is left with its old one, which listens no more. -/
theorem setSchema_ends (spare : hooks.SpareTrackers s) (has : w.HasSession id)
    (follows : (w.sessionAt id).store = s) (shared : SharedSchema)
    (rolled : w.Rolled s (((w.sessionAt id).tracker, on) :: roll)) :
    Ends (setSchema hooks id shared w)
      (fun another after => if another then ∃ t, after.Rolled s ((t, true) :: roll) ∧
        w.Gives id s t after else after = w)
      (fun after => after.Rolled s (((w.sessionAt id).tracker, false) :: roll) ∧
        w.Gives id s (w.sessionAt id).tracker after) := by
  have stopped := rolled.withSchema shared
  rw [setSchema_apply]
  split
  · exact ⟨fun _ same => by cases same; rfl, nofun⟩
  cases Ruleset.compile (w.sessionAt id).options shared.schema with
  | error error =>
      have given := Gives.withSchema has shared
      rw [follows] at given
      exact ⟨nofun, fun _ _ => ⟨stopped.of_trackers rfl, given.of_sessions rfl⟩⟩
  | ok rules =>
      have given := Gives.withRules has shared rules
      have ruled : (w.withRules id shared rules).Rolled s
          (((w.sessionAt id).tracker, false) :: roll) := stopped.of_trackers rfl
      rw [follows] at given
      dsimp only
      rw [follows]
      refine (takeTracker_ends spare ruled given _).mono ?_ fun _ failed => failed
      rintro another after ⟨rfl, taken⟩
      exact taken

end Workspace

end Formwork
