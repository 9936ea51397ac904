import Formwork.Proofs.Host.Noting
import Formwork.Proofs.Store.Roll
import Mathlib.Logic.Function.Basic

/-! # Keeping a ledger of calls

Who listens to a store, told from the calls alone: subscriptions that were made and not closed,
trackers that were started and not stopped, and sessions whose last call was to open them or to give
them another schema, and not to close them. A ledger keeps this account call by call, without a look
at the store, which is to agree with it after any calls.
-/

namespace Formwork

open Effect Workspace

/-- Who has a tracker: the host, by its number, or a session. -/
inductive Holder where
  | host (tracker : Nat)
  | session (id : Nat)
  deriving DecidableEq

/-- Whose tracker a call is about. -/
def Call.holder? : Call → Option Holder
  | .start tracker | .stop tracker => some (.host tracker)
  | .setSchema session _ | .close session => some (.session session)
  | _ => none

/-- What calls on a store have come to. -/
structure Ledger where
  /-- The subscriptions that were not closed, and who is called for them. -/
  handles : Entries Listener := []
  /-- The holders of the trackers that were made. -/
  holders : List Holder := []
  /-- Whether the tracker of a holder is to listen. -/
  listens : Holder → Bool := fun _ => false

namespace Ledger

def add (ledger : Ledger) (holder : Holder) (listens : Bool) : Ledger :=
  { ledger with
    holders := ledger.holders ++ [holder]
    listens := Function.update ledger.listens holder listens }

/-- Enter that the tracker of a holder is to listen, or not to. -/
def set (ledger : Ledger) (holder : Holder) (listens : Bool) : Ledger :=
  { ledger with listens := Function.update ledger.listens holder listens }

/-- Enter a call and what was answered. A session that was given another schema has a tracker that
    listens, unless the call failed. -/
def enter (ledger : Ledger) : Call → Except Fault Call.Reply → Ledger
  | .subscribe handle listener, .ok (.flag true) =>
      { ledger with handles := ledger.handles ++ [(handle, .host listener)] }
  | .unsubscribe handle, .ok _ => { ledger with handles := ledger.handles.drop handle }
  | .track _, .ok (.number tracker) => ledger.add (.host tracker) false
  | .start tracker, .ok _ => ledger.set (.host tracker) true
  | .stop tracker, .ok _ => ledger.set (.host tracker) false
  | .openSession .., .ok (.number session) => ledger.add (.session session) true
  | .setSchema session _, .ok (.flag true) => ledger.set (.session session) true
  | .setSchema session _, .error _ => ledger.set (.session session) false
  | .close session, .ok _ => ledger.set (.session session) false
  | _, _ => ledger

/-- Whether a call can be made: not on a tracker or session that is none of the host's. -/
def offers (ledger : Ledger) (call : Call) : Bool :=
  call.holder?.all fun holder => holder ∈ ledger.holders

end Ledger

namespace Workspace

def held (w : Workspace) : Holder → Nat
  | .host tracker => tracker
  | .session id => (w.sessionAt id).tracker

/-- Make calls one after the other, whether they fail or not, and keep a ledger. -/
def attempt (hooks : Hooks) (s : Nat) : List Call → Ledger → Workspace → Ledger × Workspace
  | [], ledger, w => (ledger, w)
  | call :: rest, ledger, w =>
      if ledger.offers call then
        attempt hooks s rest (ledger.enter call (call.perform hooks s w).1)
          (call.perform hooks s w).2
      else attempt hooks s rest ledger w

end Workspace

namespace Ledger

/-- The trackers of the holders, each with whether it is to listen. -/
def roll (ledger : Ledger) (w : Workspace) : List (Nat × Bool) :=
  ledger.holders.map fun holder => (w.held holder, ledger.listens holder)

def listening (ledger : Ledger) (w : Workspace) : List Nat :=
  (ledger.holders.filter ledger.listens).map w.held

theorem listening_eq (ledger : Ledger) (w : Workspace) :
    ledger.listening w = ((ledger.roll w).filter (·.2)).map (·.1) := by
  unfold listening roll
  rw [List.filter_map, List.map_map]
  rfl

/-- The roll of the holders besides one. -/
def others (ledger : Ledger) (holder : Holder) (w : Workspace) : List (Nat × Bool) :=
  (ledger.holders.erase holder).map fun holder => (w.held holder, ledger.listens holder)

variable {ledger : Ledger} {holder : Holder} {w w' : Workspace} {on : Bool}

theorem roll_perm (listed : holder ∈ ledger.holders) :
    (ledger.roll w).Perm ((w.held holder, ledger.listens holder) :: ledger.others holder w) :=
  (List.perm_cons_erase listed).map _

theorem roll_set (distinct : ledger.holders.Nodup) (listed : holder ∈ ledger.holders)
    (same : ∀ other ∈ ledger.holders, other ≠ holder → w'.held other = w.held other) :
    ((ledger.set holder on).roll w').Perm ((w'.held holder, on) :: ledger.others holder w) := by
  have first : (ledger.set holder on).listens holder = on := Function.update_self _ _ _
  have rest : (ledger.set holder on).others holder w' = ledger.others holder w := by
    refine List.map_congr_left fun other member => ?_
    obtain ⟨apart, member⟩ := distinct.mem_erase_iff.mp member
    rw [same other member apart]
    exact congrArg _ (Function.update_of_ne apart _ _)
  have perm := (ledger.set holder on).roll_perm (w := w') listed
  rwa [first, rest] at perm

theorem roll_add (new : holder ∉ ledger.holders)
    (same : ∀ other ∈ ledger.holders, w'.held other = w.held other) :
    ((ledger.add holder on).roll w').Perm ((w'.held holder, on) :: ledger.roll w) := by
  have old : (ledger.holders.map fun other =>
      (w'.held other, Function.update ledger.listens holder on other)) = ledger.roll w := by
    refine List.map_congr_left fun other member => ?_
    have apart : other ≠ holder := fun same => new (same ▸ member)
    rw [same other member, Function.update_of_ne apart]
  have whole : (ledger.add holder on).roll w' = ledger.roll w ++ [(w'.held holder, on)] := by
    show (ledger.holders ++ [holder]).map (fun other =>
      (w'.held other, Function.update ledger.listens holder on other)) = _
    rw [List.map_append, old, List.map_singleton, Function.update_self]
  rw [whole]
  exact List.perm_append_singleton _ _

theorem mem_of_offers {call : Call} (offered : ledger.offers call)
    (about : call.holder? = some holder) : holder ∈ ledger.holders := by
  rw [offers, about] at offered
  exact of_decide_eq_true offered

/-- Of calls that leave trackers alone only subscriptions are entered, unless a tracker is made. -/
theorem enter_spared {call : Call} (spares : call.sparesTrackers)
    (old : ∀ fields, call ≠ .track fields) (result : Except Fault Call.Reply) :
    ∃ handles, ledger.enter call result = { ledger with handles } := by
  unfold enter
  split
  case h_1 | h_2 => exact ⟨_, rfl⟩
  case h_3 => exact absurd rfl (old _)
  case h_10 => exact ⟨ledger.handles, rfl⟩
  all_goals cases spares

theorem handles_enter {call : Call} (spares : call.sparesSubscriptions)
    (result : Except Fault Call.Reply) : (ledger.enter call result).handles = ledger.handles := by
  unfold enter
  split <;> first | rfl | cases spares

end Ledger

namespace Workspace

variable {hooks : Hooks} {ledger : Ledger} {holder : Holder} {w w' : Workspace} {s t id : Nat}
  {on : Bool} {call : Call}

/-! ## Subscriptions -/

theorem openOn_switchable (handles : Entries Listener) (s : Nat) :
    Switchable fun w => w.openOn s = handles where
  store _ _ _ := id
  tracker _ _ _ _ := id
  create _ _ := id
  apart apart same := by rwa [openOn, apart.subscriptions]
  start _ _ := id
  stop _ _ := id
  session _ _ := id

theorem openOn_retained {functions : HostFunctions}
    (all : functions.All fun call => call.sparesSubscriptions) (handles : Entries Listener)
    (s base depth : Nat) : (functions.hooks base depth).Retain fun w => w.openOn s = handles :=
  all.retain (openOn_switchable handles s).toUnmoved (fun _ retain _ spares =>
    (openOn_switchable handles s).spared retain spares base) depth

theorem perform_handles (retain : hooks.Retain fun w => w.openOn s = ledger.handles)
    (booked : w.Booked) (same : w.openOn s = ledger.handles) (call : Call) :
    (call.perform hooks s w).2.openOn s =
      (ledger.enter call (call.perform hooks s w).1).handles := by
  cases call with
  | subscribe handle listener =>
      rw [perform_subscribe]
      split
      · exact same
      next unknown =>
        have fresh : handle ∉ w.subscriptions.names := fun known =>
          unknown (Entries.get?_isSome_iff.mpr known)
        have opened := openOn_subscribed fresh s s listener
        rw [if_pos rfl, same] at opened
        exact opened
  | unsubscribe handle =>
      rw [Call.perform, fst_bind_pure, snd_bind_pure, unsubscribe_apply]
      cases found : w.subscriptions.get? handle with
      | none => exact same
      | some subscription =>
          show (if subscription.isClosed then w
            else w.unsubscribed handle subscription).openOn s = ledger.handles.drop handle
          rw [← same]
          split
          next closed => exact (booked.drop_openOn found fun _ => closed).symm
          next => exact openOn_unsubscribed booked.handles found s
  | _ =>
      rw [Ledger.handles_enter rfl]
      exact (openOn_switchable ledger.handles s).spared retain rfl s w same

/-! ## Trackers and sessions -/

/-- The holders of the ledger hold the trackers over a store, and no other tracker listens to it. -/
structure Fits (ledger : Ledger) (s : Nat) (w : Workspace) : Prop where
  rolled : w.Rolled s (ledger.roll w)
  sessions : ∀ id, .session id ∈ ledger.holders → w.HasSession id ∧ (w.sessionAt id).store = s

theorem held_of_sessions (same : w'.sessions = w.sessions) (holder : Holder) :
    w'.held holder = w.held holder := by
  cases holder with
  | host t => rfl
  | session id => rw [held, held, sessionAt, sessionAt, same]

namespace Fits

theorem distinct (fits : Fits ledger s w) : ledger.holders.Nodup := by
  have keys := fits.rolled.distinct
  rw [Ledger.roll, List.map_map] at keys
  exact .of_map _ keys

theorem of_steady (fits : Fits ledger s w) (steady : w'.Steady s (ledger.roll w) w.sessions) :
    Fits ledger s w' := by
  refine ⟨?_, fun id listed => ?_⟩
  · simpa only [Ledger.roll, held_of_sessions steady.sessions] using steady.toRolled
  · rw [HasSession, sessionAt, steady.sessions]
    exact fits.sessions id listed

theorem set (fits : Fits ledger s w) (listed : holder ∈ ledger.holders)
    (rolled : w'.Rolled s ((w'.held holder, on) :: ledger.others holder w))
    (same : ∀ other ∈ ledger.holders, other ≠ holder → w'.held other = w.held other)
    (sessions : ∀ id, .session id ∈ ledger.holders →
      w'.HasSession id ∧ (w'.sessionAt id).store = s) : Fits (ledger.set holder on) s w' :=
  ⟨rolled.perm (Ledger.roll_set fits.distinct listed same).symm, sessions⟩

theorem first (fits : Fits ledger s w) (listed : holder ∈ ledger.holders) :
    w.Rolled s ((w.held holder, ledger.listens holder) :: ledger.others holder w) :=
  fits.rolled.perm (Ledger.roll_perm listed)

theorem switch (fits : Fits ledger s w) (listed : holder ∈ ledger.holders)
    (rolled : w'.Rolled s ((w.held holder, on) :: ledger.others holder w))
    (sessions : w'.sessions = w.sessions) : Fits (ledger.set holder on) s w' := by
  have held := held_of_sessions sessions
  refine fits.set listed (held holder ▸ rolled) (fun other _ _ => held other) fun id listed => ?_
  rw [HasSession, sessionAt, sessions]
  exact fits.sessions id listed

theorem give (fits : Fits ledger s w) (listed : .session id ∈ ledger.holders)
    (rolled : w'.Rolled s ((t, on) :: ledger.others (.session id) w))
    (gives : w.Gives id s t w') : Fits (ledger.set (.session id) on) s w' := by
  refine fits.set listed (?_ : w'.Rolled s ((_, on) :: _)) (fun other _ apart => ?_)
    fun other known => ?_
  · rwa [held, gives.tracker]
  · cases other with
    | host t => rfl
    | session other =>
        have apart : other ≠ id := fun same => apart (congrArg Holder.session same)
        rw [held, held, gives.others other apart]
  · have before := fits.sessions other known
    refine ⟨gives.known other before.1, ?_⟩
    by_cases same : other = id
    · rw [same, gives.store]
    · rw [gives.others other same, before.2]

theorem make (fits : Fits ledger s w) (made : w'.Steady s ((t, on) :: ledger.roll w) w.sessions) :
    Fits (ledger.add (.host t) on) s w' := by
  have held := held_of_sessions made.sessions
  have new : Holder.host t ∉ ledger.holders := fun listed => (List.nodup_cons.mp made.distinct).1
    (List.mem_map.mpr ⟨_, List.mem_map.mpr ⟨.host t, listed, rfl⟩, rfl⟩)
  refine ⟨made.perm (Ledger.roll_add new fun other _ => held other).symm, fun id listed => ?_⟩
  have known := (List.mem_append.mp listed).resolve_right nofun
  rw [HasSession, sessionAt, made.sessions]
  exact fits.sessions id known

theorem enroll (fits : Fits ledger s w) {session : Session} (follows : session.store = s)
    (made : w'.Steady s ((session.tracker, on) :: ledger.roll w) w.sessions) :
    Fits (ledger.add (.session w'.sessions.fresh) on) s
      (w'.putSession w'.sessions.fresh session) := by
  have fresh : ¬w.HasSession w'.sessions.fresh := by
    rw [HasSession, ← made.sessions]
    exact Table.fresh_not_mem _
  have new : Holder.session w'.sessions.fresh ∉ ledger.holders := fun listed =>
    fresh (fits.sessions _ listed).1
  have kept {other : Nat} (listed : Holder.session other ∈ ledger.holders) :
      (w'.putSession w'.sessions.fresh session).sessionAt other = w.sessionAt other := by
    have apart : other ≠ w'.sessions.fresh := fun same => new (same ▸ listed)
    rw [sessionAt_putSession_of_ne w' apart, sessionAt, sessionAt, made.sessions]
  have rolled : (w'.putSession w'.sessions.fresh session).Rolled s
      (((w'.putSession w'.sessions.fresh session).held (.session w'.sessions.fresh), on) ::
        ledger.roll w) := by
    rw [held, sessionAt_putSession]
    exact made.of_trackers rfl
  refine ⟨rolled.perm (Ledger.roll_add new fun other listed => ?_).symm, fun id listed => ?_⟩
  · cases other with
    | host t => rfl
    | session other => rw [held, held, kept listed]
  · rcases List.mem_append.mp listed with known | new
    · obtain ⟨has, follows⟩ := fits.sessions id known
      rw [HasSession, ← made.sessions] at has
      exact ⟨Table.mem_keys_write.mpr (.inr has), (congrArg _ (kept known)).trans follows⟩
    · cases List.mem_singleton.mp new
      exact ⟨Table.mem_keys_write.mpr (.inl rfl), by rw [sessionAt_putSession, follows]⟩

theorem stopped (fits : Fits ledger s w) (listed : holder ∈ ledger.holders) :
    Fits (ledger.set holder false) s (stopTracker (w.held holder) w).2 :=
  fits.switch listed (fits.first listed).stop (stopTracker_sessions _ w)

/-! ### Calls as they came out -/

theorem perform_spared (fits : Fits ledger s w) (spare : hooks.SpareTrackers s)
    (spares : call.sparesTrackers) (old : ∀ fields, call ≠ .track fields) :
    Fits (ledger.enter call (call.perform hooks s w).1) s (call.perform hooks s w).2 := by
  have kept := fits.of_steady (Steady.spared (spare _ _) spares s w ⟨fits.rolled, rfl⟩)
  obtain ⟨handles, entered⟩ := Ledger.enter_spared spares old (call.perform hooks s w).1
  rw [entered]
  exact ⟨kept.rolled, kept.sessions⟩

theorem perform_track (fits : Fits ledger s w) (spare : hooks.SpareTrackers s)
    (fields : List Field) :
    Fits (ledger.enter (.track fields) ((Call.track fields).perform hooks s w).1) s
      ((Call.track fields).perform hooks s w).2 := by
  have ends := createTracker_ends spare ⟨fits.rolled, rfl⟩ fields
  rw [Call.perform, fst_bind_pure, snd_bind_pure]
  rcases ran : createTracker hooks s fields w with ⟨fault | t, after⟩ <;> rw [ran] at ends
  · exact fits.of_steady (ends.failed fault rfl)
  · exact fits.make (ends.fine t rfl)

theorem perform_openSession (fits : Fits ledger s w) (spare : hooks.SpareTrackers s)
    (shared : SharedSchema) (options : CompileOptions) (initial : Entries Value) :
    Fits (ledger.enter (.openSession shared options initial)
      ((Call.openSession shared options initial).perform hooks s w).1) s
      ((Call.openSession shared options initial).perform hooks s w).2 := by
  have ends := joinSession_ends spare ⟨fits.rolled, rfl⟩ shared options initial
  rw [Call.perform]
  rcases ran : joinSession hooks shared options s initial w with ⟨fault | session, between⟩ <;>
    rw [ran] at ends
  · rw [bind_of_error ran]
    exact fits.of_steady (ends.failed fault rfl)
  · obtain ⟨follows, made⟩ := ends.fine session rfl
    rw [bind_of_ok ran]
    exact fits.enroll follows made

/-- A session that was given another schema has another tracker, which listens. One that failed to
    get it is left with its old tracker, which does not. -/
theorem perform_setSchema (fits : Fits ledger s w) (spare : hooks.SpareTrackers s)
    (listed : .session id ∈ ledger.holders) (shared : SharedSchema) :
    Fits (ledger.enter (.setSchema id shared) ((Call.setSchema id shared).perform hooks s w).1) s
      ((Call.setSchema id shared).perform hooks s w).2 := by
  obtain ⟨has, follows⟩ := fits.sessions id listed
  have ends := setSchema_ends spare has follows shared (fits.first listed)
  rw [Call.perform, fst_bind_pure, snd_bind_pure]
  rcases ran : setSchema hooks id shared w with ⟨fault | another, after⟩ <;> rw [ran] at ends
  · obtain ⟨rolled, gives⟩ := ends.failed fault rfl
    exact fits.give listed rolled gives
  · have fine := ends.fine another rfl
    cases another with
    | false =>
        cases fine
        exact fits
    | true =>
        obtain ⟨t, rolled, gives⟩ := fine
        exact fits.give listed rolled gives

theorem perform (fits : Fits ledger s w) (spare : hooks.SpareTrackers s)
    (offered : ledger.offers call) :
    Fits (ledger.enter call (call.perform hooks s w).1) s (call.perform hooks s w).2 := by
  cases call with
  | track fields => exact fits.perform_track spare fields
  | start t =>
      have listed := Ledger.mem_of_offers offered rfl
      have started := fits.switch listed (fits.first listed).start (startTracker_sessions t w)
      rw [Call.perform, fst_bind_pure, snd_bind_pure, startTracker_apply]
      rwa [startTracker_apply] at started
  | stop t =>
      have stopped := fits.stopped (Ledger.mem_of_offers offered rfl)
      rw [Call.perform, fst_bind_pure, snd_bind_pure, stopTracker_apply]
      rwa [held, stopTracker_apply] at stopped
  | openSession shared options initial =>
      exact fits.perform_openSession spare shared options initial
  | setSchema id shared =>
      exact fits.perform_setSchema spare (Ledger.mem_of_offers offered rfl) shared
  | close id =>
      have stopped := fits.stopped (Ledger.mem_of_offers offered rfl)
      rw [Call.perform, get_bind, fst_bind_pure, snd_bind_pure, stopTracker_apply]
      rwa [held, stopTracker_apply] at stopped
  | _ => exact fits.perform_spared spare rfl (by rintro _ ⟨⟩)

end Fits

/-! ## Any calls -/

theorem attempt_keeps (holds : Ledger → Workspace → Prop)
    (each : ∀ call ledger w, ledger.offers call → holds ledger w →
      holds (ledger.enter call (call.perform hooks s w).1) (call.perform hooks s w).2)
    (calls : List Call) (held : holds ledger w) :
    holds (attempt hooks s calls ledger w).1 (attempt hooks s calls ledger w).2 := by
  induction calls generalizing ledger w with
  | nil => exact held
  | cons call rest ih =>
      rw [attempt]
      split
      next offered => exact ih (each call ledger w offered held)
      next => exact ih held

end Workspace

namespace Ledger

theorem length_enter_le (ledger : Ledger) (call : Call) (result : Except Fault Call.Reply) :
    (ledger.enter call result).holders.length ≤ ledger.holders.length + 1 := by
  unfold enter
  split <;> simp [add, set]

theorem length_attempt_le (hooks : Hooks) (s : Nat) (calls : List Call) (ledger : Ledger)
    (w : Workspace) : (attempt hooks s calls ledger w).1.holders.length ≤
      ledger.holders.length + calls.length := by
  induction calls generalizing ledger w with
  | nil => exact Nat.le_refl _
  | cons call rest ih =>
      have entered := ledger.length_enter_le call (call.perform hooks s w).1
      rw [attempt, List.length_cons]
      split <;> exact Nat.le_trans (ih _ _) (by omega)

end Ledger

namespace Workspace

variable {functions : HostFunctions} {ledger : Ledger} {w : Workspace} {s depth : Nat}

/-- Nobody listens to the store yet, so there is nothing to enter. -/
theorem Booked.fits_start (booked : w.Booked) (vacant : (w.storeAt s).listeners = []) :
    Fits {} s w := by
  refine ⟨⟨nofun, nofun, nofun, fun t active follows => ?_, List.nodup_nil⟩, nofun⟩
  have counted := booked.counted s (.tracker t)
  rw [vacant, due_tracker, attachment, if_pos ⟨active, follows⟩] at counted
  cases counted

theorem Booked.openOn_start (booked : w.Booked) (vacant : (w.storeAt s).listeners = []) :
    w.openOn s = [] := by
  have perm := booked.listeners_perm s
  rw [vacant] at perm
  exact List.map_eq_nil_iff.mp (List.append_eq_nil_iff.mp perm.nil_eq.symm).1

theorem Booked.handles_after (booked : w.Booked) (same : w.openOn s = ledger.handles)
    (spare : functions.All fun call => call.sparesSubscriptions) (calls : List Call) :
    (attempt (functions.hooks s depth) s calls ledger w).2.openOn s =
      (attempt (functions.hooks s depth) s calls ledger w).1.handles := by
  refine (attempt_keeps (fun ledger w => w.Booked ∧ w.openOn s = ledger.handles)
    (fun call ledger w _ held => ?_) calls ⟨booked, same⟩).2
  exact ⟨Booked.perform (Booked.retained functions s depth) s call w held.1,
    perform_handles (openOn_retained spare _ s s depth) held.1 held.2 call⟩

theorem Booked.after (booked : w.Booked) (functions : HostFunctions) (s depth : Nat)
    (calls : List Call) (ledger : Ledger) :
    (attempt (functions.hooks s depth) s calls ledger w).2.Booked :=
  attempt_keeps (fun _ w => w.Booked)
    (fun call _ w _ => Booked.perform (Booked.retained functions s depth) s call w) calls booked

theorem Fits.after (fits : Fits ledger s w) (spare : functions.All fun call => call.sparesTrackers)
    (depth : Nat) (calls : List Call) :
    Fits (attempt (functions.hooks s depth) s calls ledger w).1 s
      (attempt (functions.hooks s depth) s calls ledger w).2 :=
  attempt_keeps (fun ledger w => Fits ledger s w)
    (fun _ _ _ offered fits => fits.perform (spare.spareTrackers s depth) offered) calls fits

theorem Fits.count (fits : Fits ledger s w) (booked : w.Booked) {holder : Holder}
    (listed : holder ∈ ledger.holders) :
    (w.storeAt s).listeners.count (.tracker (w.held holder)) =
      if ledger.listens holder then 1 else 0 := by
  have entry : (w.held holder, ledger.listens holder) ∈ ledger.roll w :=
    List.mem_map.mpr ⟨holder, listed, rfl⟩
  have active := fits.rolled.isActive _ entry
  have follows := fits.rolled.store _ entry
  rw [booked.counted, due_tracker, attachment, active, follows]
  simp only [and_true]

theorem Fits.trackers_le (fits : Fits ledger s w) (booked : w.Booked) :
    (w.storeAt s).trackers.length ≤ ledger.holders.length := by
  have same := (booked.trackers_perm s).trans fits.rolled.activeOn_perm
  rw [same.length_eq, List.length_map]
  exact Nat.le_trans (List.length_filter_le _ _) (Nat.le_of_eq (List.length_map _))

/-- Who listens to a store after some calls, depending on what the functions of the host do that
    are told of changes in the midst of them. -/
structure Audited (functions : HostFunctions) (s depth : Nat) (calls : List Call)
    (ledger : Ledger) (w : Workspace) : Prop where
  /-- Whatever functions do, the listeners of open subscriptions and the active trackers. -/
  listeners : (w.storeAt s).listeners.Perm
    ((w.openOn s).map (·.2) ++ (w.activeOn s).map .tracker)
  once : ∀ t, (w.storeAt s).listeners.count (.tracker t) ≤ 1
  /-- Subscriptions are open that were made and not closed. -/
  handles : (functions.All fun call => call.sparesSubscriptions) → w.openOn s = ledger.handles
  /-- Trackers are active that holders have who are to listen, one of each. -/
  trackers : (functions.All fun call => call.sparesTrackers) →
    (w.activeOn s).Perm (ledger.listening w) ∧ ∀ holder ∈ ledger.holders,
      (w.storeAt s).listeners.count (.tracker (w.held holder)) =
        if ledger.listens holder then 1 else 0
  /-- Where functions merely take notes, every session takes any other schema that compiles. -/
  takes : functions.Return → calls.length < depth → ∀ id, .session id ∈ ledger.holders →
    ∀ shared rules, shared.isSame (w.sessionAt id).shared = false →
      Ruleset.compile (w.sessionAt id).options shared.schema = .ok rules →
        (setSchema (functions.hooks s depth) id shared w).1 = .ok true

/-- Whatever is called on a store that nobody listened to, in whatever order and however often, who
    listens then is who is to listen by the books and by the ledger. -/
theorem Booked.attempt_audited (booked : w.Booked) (vacant : (w.storeAt s).listeners = [])
    (functions : HostFunctions) (depth : Nat) (calls : List Call) :
    Audited functions s depth calls (attempt (functions.hooks s depth) s calls {} w).1
      (attempt (functions.hooks s depth) s calls {} w).2 := by
  have after := booked.after functions s depth calls {}
  have fits (spare : functions.All fun call => call.sparesTrackers) :=
    (booked.fits_start vacant).after spare depth calls
  refine ⟨after.listeners_perm s, after.count_tracker_le s,
    fun spare => booked.handles_after (booked.openOn_start vacant) spare calls, fun spare => ?_,
    fun returns enough id listed shared rules other compiled => ?_⟩
  · refine ⟨?_, fun holder listed => (fits spare).count after listed⟩
    rw [Ledger.listening_eq]
    exact (fits spare).rolled.activeOn_perm
  · have fits := fits returns.all
    have few := Ledger.length_attempt_le (functions.hooks s depth) s calls {} w
    rw [List.length_nil, Nat.zero_add] at few
    refine setSchema_tells (returns.tells s s depth) after (fits.sessions id listed).2 ?_ other
      compiled
    exact Nat.lt_of_le_of_lt (Nat.le_trans (fits.trackers_le after) few) enough

/-! ## Pets in a store, for instance -/

/-- Functions that take notes of what they are told. -/
def noteTakers : HostFunctions where
  changed name names values :=
    .own (·.addEvent (.changed name names values)) (fun _ => ⟨rfl, rfl, rfl, rfl⟩) fun _ => .done
  shown name map :=
    .own (·.addEvent (.shown name map)) (fun _ => ⟨rfl, rfl, rfl, rfl⟩) fun _ => .done

/-- Functions that fail whatever they are told. -/
def alarming : HostFunctions where
  changed _ _ _ := .fail (.host { kind := "Alarm", message := "changed" })
  shown _ _ := .fail (.host { kind := "Alarm", message := "shown" })

theorem noteTakers_return : noteTakers.Return := ⟨fun _ _ _ _ => trivial, fun _ _ _ => trivial⟩

def petStored : Workspace :=
  { stores := [(0, { values := [("pet", .str "yes"), ("petName", .str "Rex")] })] }

def petShared : SharedSchema := { key := some "pet", schema := petForm }

def petIfTagged : SharedSchema where
  key := some "tag"
  schema :=
    { title := "Tag"
      body := .flat [{ name := "pet" }, { name := "petName", condition := fieldIs "tag" "yes" }] }

theorem petStored_vacant (s : Nat) : (petStored.storeAt s).listeners = [] := by
  unfold petStored storeAt Table.read
  split <;> rfl

theorem petStored_booked : petStored.Booked := .start rfl rfl petStored_vacant

theorem exists_of_isOk {α β : Type} {result : Except α β} (fine : result.isOk = true) :
    ∃ value, result = .ok value := by
  cases result with
  | ok value => exact ⟨value, rfl⟩
  | error error => cases fine

/-- One of two subscriptions closed twice, a tracker started twice, one of two sessions closed and
    the other given another schema. -/
def petCalls : List Call :=
  [.subscribe "a" "notes", .subscribe "b" "notes", .unsubscribe "a", .unsubscribe "a",
    .track petForm.fields, .start 0, .start 0, .openSession petShared {} [],
    .openSession petShared {} [], .close 1, .close 1, .setSchema 0 petIfTagged]

/-- The session that was closed can take another schema, too. -/
theorem petStored_audited :
    petStored.Booked ∧ (petStored.storeAt 0).listeners = [] ∧ noteTakers.Return ∧
      let run := attempt (noteTakers.hooks 0 20) 0 petCalls {} petStored
      (run.2.storeAt 0).listeners.Perm [.host "notes", .tracker 0, .tracker 3] ∧
        (setSchema (noteTakers.hooks 0 20) 1 petIfTagged run.2).1 = .ok true := by
  have audited := petStored_booked.attempt_audited (petStored_vacant 0) noteTakers 20 petCalls
  have opened : (attempt (noteTakers.hooks 0 20) 0 petCalls {} petStored).1.handles =
      [("b", .host "notes")] := by decide +kernel
  have listening : (attempt (noteTakers.hooks 0 20) 0 petCalls {} petStored).1.listening
      (attempt (noteTakers.hooks 0 20) 0 petCalls {} petStored).2 = [0, 3] := by decide +kernel
  have fine : (Ruleset.compile ((attempt (noteTakers.hooks 0 20) 0 petCalls {}
      petStored).2.sessionAt 1).options petIfTagged.schema).isOk = true := by decide +kernel
  obtain ⟨rules, compiled⟩ := exists_of_isOk fine
  refine ⟨petStored_booked, petStored_vacant 0, noteTakers_return, ?_, ?_⟩
  · have trackers := (audited.trackers noteTakers_return.all).1
    have listeners := audited.listeners
    rw [audited.handles noteTakers_return.all, opened] at listeners
    rw [listening] at trackers
    exact listeners.trans ((trackers.map _).append_left _)
  · exact audited.takes noteTakers_return (by decide) 1 (by decide +kernel) petIfTagged rules
      (by decide +kernel) compiled

/-- A session is given another schema that compiles, and no tracker of it listens any more, because
    a function of the host failed that was told of the pet's name. -/
theorem petStored_deaf :
    ¬∀ (functions : HostFunctions) (calls : List Call) (id : Nat) (shared : SharedSchema)
      (rules : Ruleset),
      let before := attempt (functions.hooks 0 20) 0 calls {} petStored
      .session id ∈ before.1.holders →
        shared.isSame (before.2.sessionAt id).shared = false →
          Ruleset.compile (before.2.sessionAt id).options shared.schema = .ok rules →
            let after := (setSchema (functions.hooks 0 20) id shared before.2).2
            (after.storeAt 0).listeners.count (.tracker (after.sessionAt id).tracker) = 1 := by
  intro always
  have deaf : ((setSchema (alarming.hooks 0 20) 0 petIfTagged (attempt (alarming.hooks 0 20) 0
      [.subscribe "a" "alarm", .openSession petShared {} []] {} petStored).2).2.storeAt
        0).listeners = [.host "alarm"] := by decide +kernel
  have fine : (Ruleset.compile ((attempt (alarming.hooks 0 20) 0
      [.subscribe "a" "alarm", .openSession petShared {} []] {} petStored).2.sessionAt
        0).options petIfTagged.schema).isOk = true := by decide +kernel
  obtain ⟨rules, compiled⟩ := exists_of_isOk fine
  have once := always alarming [.subscribe "a" "alarm", .openSession petShared {} []] 0
    petIfTagged rules (by decide +kernel) (by decide +kernel) compiled
  dsimp only at once
  rw [deaf] at once
  cases once

/-- Functions that give a session its old schema back when they are told that it has another. -/
def reverting : HostFunctions where
  changed _ _ _ := .own id (fun _ => ⟨rfl, rfl, rfl, rfl⟩) fun w =>
    if (w.sessionAt 0).shared.key = some "tag" then .make (.setSchema 0 petShared) fun _ _ => .done
    else .done
  shown _ _ := .done

/-- The session forgets the tracker that it was given in the midst of being given another, so it
    goes on to listen when the session is closed. -/
theorem petStored_leaks :
    let run := attempt (reverting.hooks 0 20) 0 [.subscribe "a" "reverts",
      .openSession petShared {} [], .setSchema 0 petIfTagged, .close 0] {} petStored
    run.1.listening run.2 = [] ∧
      (run.2.storeAt 0).listeners = [.host "reverts", .tracker 2] := by
  decide +kernel

end Workspace

end Formwork
