import Formwork.Proofs.Store.Watchers
import Mathlib.Logic.Relation

/-! # What can happen to a workspace

Whatever a host does, and whatever its functions do when they are called in the middle of that,
comes down to a few kinds of change. Each keeps the workspace in order: a tracker listens to its
own store, once, while it is active, and to no store otherwise; and what is in use is there.

Some trackers may be shut: nobody has a hold of them by which to start them. They are those that
are still being made, and those that a session is about to give up.
-/

namespace Formwork

theorem Store.trackers_unsubscribe_host (store : Store) (name : String) :
    (store.unsubscribe (.host name)).trackers = store.trackers := by
  unfold unsubscribe trackers
  induction store.listeners with
  | nil => rfl
  | cons listener rest ih =>
      simp only at ih
      cases listener with
      | tracker id => simpa [List.erase_cons, List.filterMap_cons, Listener.tracker?] using ih
      | host other =>
          by_cases same : other = name
          · simp [List.filterMap_cons, Listener.tracker?, same]
          · simpa [List.erase_cons, List.filterMap_cons, Listener.tracker?, same] using ih

namespace Workspace

variable {shut more : List Nat} {w w' w'' : Workspace} {s t : Nat}

/-- A tracker that has been made. -/
def Knows (w : Workspace) (t : Nat) : Prop := t ∈ w.trackers.map (·.1)

/-- A session that has been opened. -/
def HasSession (w : Workspace) (id : Nat) : Prop := id ∈ w.sessions.map (·.1)

/-- Some session has the tracker. -/
def Holds (w : Workspace) (t : Nat) : Prop :=
  ∃ id, w.HasSession id ∧ (w.sessionAt id).tracker = t

/-- A session has a tracker that nobody can start by other ways. -/
def Owns (shut : List Nat) (session : Session) (w : Workspace) : Prop :=
  w.Knows session.tracker ∧ session.tracker ∉ shut ∧ w.tracker ≠ some session.tracker

/-- How often a tracker is to listen to a store. -/
def attachment (w : Workspace) (s t : Nat) : Nat :=
  if (w.trackerAt t).isActive = true ∧ (w.trackerAt t).store = s then 1 else 0

/-- A workspace after a tracker has begun to listen. -/
def started (w : Workspace) (t : Nat) : Workspace :=
  (w.updateStore (w.trackerAt t).store (·.subscribe (.tracker t))).updateTracker t
    fun tracker => { tracker with isActive := true }

/-- A workspace after a tracker has ceased to listen. -/
def stopped (w : Workspace) (t : Nat) : Workspace :=
  (w.updateStore (w.trackerAt t).store (·.unsubscribe (.tracker t))).updateTracker t
    fun tracker => { tracker with isActive := false }

/-- One thing that happens to a workspace while some trackers are shut. -/
inductive Change (shut : List Nat) (w : Workspace) : Workspace → Prop where
  /-- A store is another one, but the same trackers listen to it. -/
  | store (s : Nat) (f : Store → Store)
      (trackers : (f (w.storeAt s)).trackers = (w.storeAt s).trackers) :
      Change shut w (w.updateStore s f)
  | create (s : Nat) (fields : List Field) :
      Change shut w (w.updateTracker w.trackers.fresh fun _ => Tracker.ofFields s fields)
  /-- A tracker has another map or other listeners. -/
  | tracker (t : Nat) (f : Tracker → Tracker)
      (store : (f (w.trackerAt t)).store = (w.trackerAt t).store)
      (conditions : (f (w.trackerAt t)).conditions = (w.trackerAt t).conditions)
      (isActive : (f (w.trackerAt t)).isActive = (w.trackerAt t).isActive)
      (formed : (w.trackerAt t).Formed → (f (w.trackerAt t)).Formed) :
      Change shut w (w.updateTracker t f)
  | start (t : Nat) (allowed : t ∉ shut) (known : w.Knows t)
      (idle : (w.trackerAt t).isActive = false) : Change shut w (w.started t)
  | stop (t : Nat) (active : (w.trackerAt t).isActive = true) : Change shut w (w.stopped t)
  | useTracker (t : Nat) (allowed : t ∉ shut) (known : w.Knows t) (free : ¬w.Holds t) :
      Change shut w { w with tracker := some t }
  /-- A session is another one. It keeps its tracker, or has one of its own. -/
  | session (id : Nat) (session : Session)
      (tracker : w.HasSession id ∧ session.tracker = (w.sessionAt id).tracker ∨
        Owns shut session w) : Change shut w (w.putSession id session)
  | useSession (id : Nat) (known : w.HasSession id) :
      Change shut w { w with session := some id, store := (w.sessionAt id).store }
  | nameSession (name : String) (id : Nat) (known : w.HasSession id) :
      Change shut w { w with sessionNames := w.sessionNames.put name id }
  | subscription (name : String) (subscription : Subscription)
      (host : ∃ listener, subscription.listener = .host listener) :
      Change shut w { w with subscriptions := w.subscriptions.put name subscription }
  /-- Stores, trackers and sessions stay as they are, and so does what is in use. -/
  | elsewhere (w' : Workspace) (stores : w'.stores = w.stores) (trackers : w'.trackers = w.trackers)
      (sessions : w'.sessions = w.sessions) (tracker : w'.tracker = w.tracker)
      (session : w'.session = w.session) (sessionNames : w'.sessionNames = w.sessionNames)
      (subscriptions : w'.subscriptions = w.subscriptions) : Change shut w w'

theorem addNotices_change (shut : List Nat) (w : Workspace) (notices : List Notice) :
    Change shut w (w.addNotices notices) :=
  .elsewhere _ rfl rfl rfl rfl rfl rfl rfl

/-- A workspace in which everything is in order. -/
structure Orderly (shut : List Nat) (w : Workspace) : Prop where
  attached : ∀ s t, (w.storeAt s).trackers.count t = w.attachment s t
  formed : ∀ t, (w.trackerAt t).Formed
  shut : ∀ t ∈ shut, w.Knows t ∧ w.tracker ≠ some t
  used : ∀ t, w.tracker = some t → w.Knows t ∧ ¬w.Holds t
  held : ∀ t, w.Holds t → w.Knows t
  session : ∀ id, w.session = some id → w.HasSession id
  named : ∀ name id, w.sessionNames.get? name = some id → w.HasSession id
  hosts : ∀ name subscription, w.subscriptions.get? name = some subscription →
    ∃ listener, subscription.listener = .host listener

theorem attachment_of_same {t : Nat} (active : (w'.trackerAt t).isActive = (w.trackerAt t).isActive)
    (store : (w'.trackerAt t).store = (w.trackerAt t).store) (s : Nat) :
    w'.attachment s t = w.attachment s t := by
  simp only [attachment, active, store]

@[simp] theorem trackerAt_updateStore (w : Workspace) (s t : Nat) (f : Store → Store) :
    (w.updateStore s f).trackerAt t = w.trackerAt t := rfl

theorem Knows.updateTracker (known : w.Knows t) (id : Nat) (f : Tracker → Tracker) :
    (w.updateTracker id f).Knows t := Table.mem_keys_write.mpr (.inr known)

theorem not_knows_fresh (w : Workspace) : ¬w.Knows w.trackers.fresh :=
  Table.fresh_not_mem w.trackers

theorem trackerAt_of_not_knows (unknown : ¬w.Knows t) : w.trackerAt t = default :=
  Table.read_of_not_mem unknown

theorem sessionAt_putSession_of_ne (w : Workspace) {id other : Nat} (h : other ≠ id)
    (session : Session) : (w.putSession id session).sessionAt other = w.sessionAt other := by
  simp [sessionAt, Workspace.putSession, Table.read_write, h.symm]

theorem holds_putSession {id : Nat} {session : Session}
    (holds : (w.putSession id session).Holds t) : t = session.tracker ∨ w.Holds t := by
  obtain ⟨other, known, rfl⟩ := holds
  by_cases same : other = id
  · rw [same, sessionAt_putSession]
    exact .inl rfl
  · rw [sessionAt_putSession_of_ne w same]
    refine .inr ⟨other, ?_, rfl⟩
    exact (Table.mem_keys_write.mp known).resolve_left same

namespace Orderly

theorem of_same (orderly : w.Orderly shut) (tracker : w'.tracker = w.tracker)
    (sessions : w'.sessions = w.sessions) (session : w'.session = w.session)
    (sessionNames : w'.sessionNames = w.sessionNames)
    (subscriptions : w'.subscriptions = w.subscriptions) (known : ∀ t, w.Knows t → w'.Knows t)
    (attached : ∀ s t, (w'.storeAt s).trackers.count t = w'.attachment s t)
    (formed : ∀ t, (w'.trackerAt t).Formed) : w'.Orderly shut := by
  have has (id : Nat) : w'.HasSession id ↔ w.HasSession id := by
    rw [HasSession, HasSession, sessions]
  have holds (t : Nat) : w'.Holds t ↔ w.Holds t := by
    simp only [Holds, has, sessionAt, sessions]
  refine ⟨attached, formed, ?_, ?_, ?_, ?_, ?_, ?_⟩
  · intro t member
    rw [tracker]
    exact ⟨known t (orderly.shut t member).1, (orderly.shut t member).2⟩
  · intro t inUse
    rw [tracker] at inUse
    rw [holds]
    exact ⟨known t (orderly.used t inUse).1, (orderly.used t inUse).2⟩
  · intro t held
    exact known t (orderly.held t ((holds t).mp held))
  · intro id inUse
    rw [session] at inUse
    exact (has id).mpr (orderly.session id inUse)
  · intro name id found
    rw [sessionNames] at found
    exact (has id).mpr (orderly.named name id found)
  · rw [subscriptions]
    exact orderly.hosts

theorem updateStore (orderly : w.Orderly shut) (f : Store → Store)
    (trackers : (f (w.storeAt s)).trackers = (w.storeAt s).trackers) :
    (w.updateStore s f).Orderly shut := by
  refine orderly.of_same rfl rfl rfl rfl rfl (fun _ => id) (fun other t => ?_) orderly.formed
  show _ = w.attachment other t
  by_cases same : other = s
  · rw [same, storeAt_updateStore, trackers, orderly.attached]
  · rw [storeAt_updateStore_of_ne w same, orderly.attached]

theorem updateTracker (orderly : w.Orderly shut) (f : Tracker → Tracker)
    (attached : ∀ s, (w.updateTracker t f).attachment s t = w.attachment s t)
    (formed : (f (w.trackerAt t)).Formed) : (w.updateTracker t f).Orderly shut := by
  refine orderly.of_same rfl rfl rfl rfl rfl (fun _ known => known.updateTracker t f)
    (fun s other => ?_) (fun other => ?_)
  · show (w.storeAt s).trackers.count other = _
    by_cases same : other = t
    · rw [same, attached, orderly.attached]
    · have unchanged := trackerAt_updateTracker_of_ne w same f
      rw [attachment_of_same (congrArg _ unchanged) (congrArg _ unchanged), orderly.attached]
  · by_cases same : other = t
    · rw [same, trackerAt_updateTracker]
      exact formed
    · rw [trackerAt_updateTracker_of_ne w same]
      exact orderly.formed other

theorem create (orderly : w.Orderly shut) (s : Nat) (fields : List Field) :
    (w.updateTracker w.trackers.fresh fun _ => Tracker.ofFields s fields).Orderly shut := by
  refine orderly.updateTracker _ (fun other => ?_) (Tracker.Serves.new s).formed
  have idle : (w.trackerAt w.trackers.fresh).isActive = false := by
    rw [trackerAt_of_not_knows w.not_knows_fresh]
    rfl
  simp [attachment, trackerAt_updateTracker, idle, Tracker.ofFields]

/-- A tracker begins to listen, or ceases to, while the trackers of its store become others. -/
theorem switch (orderly : w.Orderly shut) (f : Store → Store) (isActive : Bool)
    (others : ∀ other, other ≠ t → (f (w.storeAt (w.trackerAt t).store)).trackers.count other =
      (w.storeAt (w.trackerAt t).store).trackers.count other)
    (itself : (f (w.storeAt (w.trackerAt t).store)).trackers.count t = if isActive then 1 else 0) :
    ((w.updateStore (w.trackerAt t).store f).updateTracker t
      fun tracker => { tracker with isActive }).Orderly shut := by
  have at_t := trackerAt_updateTracker (w.updateStore (w.trackerAt t).store f) t
    fun tracker => { tracker with isActive }
  have off_t (other : Nat) (differ : other ≠ t) := trackerAt_updateTracker_of_ne
    (w.updateStore (w.trackerAt t).store f) differ fun tracker => { tracker with isActive }
  refine orderly.of_same rfl rfl rfl rfl rfl
    (fun _ (known : (w.updateStore _ f).Knows _) => known.updateTracker t _)
    (fun s other => ?_) (fun other => ?_)
  · show ((w.updateStore (w.trackerAt t).store f).storeAt s).trackers.count other = _
    have before := orderly.attached s other
    by_cases differ : other = t
    · subst differ
      rw [attachment, at_t]
      by_cases here : s = (w.trackerAt other).store
      · subst here
        rw [storeAt_updateStore, itself]
        cases isActive <;> simp [trackerAt_updateStore]
      · rw [storeAt_updateStore_of_ne w here, before]
        simp [attachment, trackerAt_updateStore, Ne.symm here]
    · have tracker := off_t other differ
      rw [attachment_of_same (congrArg _ tracker) (congrArg _ tracker)]
      refine Eq.trans ?_ before
      by_cases here : s = (w.trackerAt t).store
      · subst here
        rw [storeAt_updateStore, others other differ]
      · rw [storeAt_updateStore_of_ne w here]
  · by_cases same : other = t
    · subst same
      rw [at_t]
      exact ⟨(orderly.formed other).distinct, (orderly.formed other).fits⟩
    · rw [off_t other same]
      exact orderly.formed other

theorem start (orderly : w.Orderly shut) (idle : (w.trackerAt t).isActive = false) :
    (w.started t).Orderly shut := by
  refine orderly.switch _ true (fun other differ => ?_) ?_ <;> rw [Store.trackers_subscribe]
  · simp [List.count_append, differ.symm]
  · simp [List.count_append, orderly.attached, attachment, idle]

theorem stop (orderly : w.Orderly shut) (active : (w.trackerAt t).isActive = true) :
    (w.stopped t).Orderly shut := by
  refine orderly.switch _ false (fun other differ => ?_) ?_ <;> rw [Store.trackers_unsubscribe]
  · exact List.count_erase_of_ne differ
  · simp [List.count_erase_self, orderly.attached, attachment, active]

theorem putSession (orderly : w.Orderly shut) {id : Nat} {session : Session}
    (tracker : w.HasSession id ∧ session.tracker = (w.sessionAt id).tracker ∨
      Owns shut session w) : (w.putSession id session).Orderly shut := by
  have has (other : Nat) (known : w.HasSession other) :
      (w.putSession id session).HasSession other := Table.mem_keys_write.mpr (.inr known)
  have free (t : Nat) (inUse : w.tracker = some t) : ¬(w.putSession id session).Holds t := by
    intro holds
    rcases holds_putSession holds with rfl | holds
    · rcases tracker with ⟨known, same⟩ | ⟨-, -, apart⟩
      · exact (orderly.used _ inUse).2 ⟨id, known, same.symm⟩
      · exact apart inUse
    · exact (orderly.used t inUse).2 holds
  refine ⟨orderly.attached, orderly.formed, orderly.shut,
    fun t inUse => ⟨(orderly.used t inUse).1, free t inUse⟩, fun t holds => ?_,
    fun other inUse => has other (orderly.session other inUse),
    fun name other found => has other (orderly.named name other found), orderly.hosts⟩
  rcases holds_putSession holds with rfl | holds
  · rcases tracker with ⟨known, same⟩ | ⟨known, -⟩
    · exact orderly.held _ ⟨id, known, same.symm⟩
    · exact known
  · exact orderly.held t holds

/-- What one thing does that happens, as long as nobody starts or takes hold of a tracker that is
    shut. -/
theorem change (orderly : w.Orderly shut) (change : Change shut w w') : w'.Orderly shut := by
  cases change with
  | store s f trackers => exact orderly.updateStore f trackers
  | create s fields => exact orderly.create s fields
  | tracker t f store conditions isActive formed =>
      refine orderly.updateTracker f (fun s => ?_) (formed (orderly.formed t))
      simp only [attachment, trackerAt_updateTracker, store, isActive]
  | start t allowed known idle => exact orderly.start idle
  | stop t active => exact orderly.stop active
  | useTracker t allowed known free =>
      refine { orderly with shut := fun other member => ?_, used := fun other inUse => ?_ }
      · refine ⟨(orderly.shut other member).1, fun same => allowed ?_⟩
        cases same
        exact member
      · cases inUse
        exact ⟨known, free⟩
  | session id session tracker => exact orderly.putSession tracker
  | useSession id known =>
      refine { orderly with session := fun other inUse => ?_ }
      cases inUse
      exact known
  | nameSession name id known =>
      refine { orderly with named := fun other found reads => ?_ }
      rw [Entries.get?_put] at reads
      split at reads
      · cases reads
        exact known
      · exact orderly.named other found reads
  | subscription name subscription host =>
      refine { orderly with hosts := fun other found reads => ?_ }
      rw [Entries.get?_put] at reads
      split at reads
      · cases reads
        exact host
      · exact orderly.hosts other found reads
  | elsewhere w' stores trackers sessions tracker session sessionNames subscriptions =>
      have store (s : Nat) : w'.storeAt s = w.storeAt s := by rw [storeAt, storeAt, stores]
      have same (t : Nat) : w'.trackerAt t = w.trackerAt t := by
        rw [trackerAt, trackerAt, trackers]
      refine orderly.of_same tracker sessions session sessionNames subscriptions (fun t known => ?_)
        (fun s t => ?_) (fun t => ?_)
      · rwa [Knows, trackers]
      · rw [store, attachment_of_same (congrArg _ (same t)) (congrArg _ (same t)),
          orderly.attached]
      · rw [same]
        exact orderly.formed t

theorem shutting (orderly : w.Orderly shut) (held : w.Holds t) :
    w.Orderly (t :: shut) := by
  refine { orderly with shut := fun other member => ?_ }
  rcases List.mem_cons.mp member with rfl | member
  · exact ⟨orderly.held other held, fun inUse => (orderly.used other inUse).2 held⟩
  · exact orderly.shut other member

theorem active (orderly : w.Orderly shut) (listed : t ∈ (w.storeAt s).trackers) :
    (w.trackerAt t).isActive = true ∧ (w.trackerAt t).store = s := by
  have counted := List.count_pos_iff.mpr listed
  rw [orderly.attached, attachment] at counted
  split at counted
  next both => exact both
  next => cases counted

theorem distinct (orderly : w.Orderly shut) (s : Nat) :
    (w.storeAt s).trackers.Nodup := by
  refine List.nodup_iff_count_le_one.mpr fun t => ?_
  rw [orderly.attached, attachment]
  split <;> omega

theorem trackers_le (orderly : w.Orderly shut) (s : Nat) :
    (w.storeAt s).trackers.length ≤ w.trackers.length := by
  have known : (w.storeAt s).trackers ⊆ w.trackers.map (·.1) := by
    intro t listed
    by_contra unknown
    have active := (orderly.active listed).1
    rw [trackerAt_of_not_knows unknown] at active
    cases active
  have fewer := (List.subperm_of_subset (orderly.distinct s) known).length_le
  rwa [List.length_map] at fewer

end Orderly

/-! ## What stays -/

/-- What is there stays there, and a tracker that is shut is neither started nor taken by a
    session. -/
structure Later (shut : List Nat) (w w' : Workspace) : Prop where
  knows : ∀ t, w.Knows t → w'.Knows t
  hasSession : ∀ id, w.HasSession id → w'.HasSession id
  store : ∀ t, w.Knows t → (w'.trackerAt t).store = (w.trackerAt t).store
  conditions : ∀ t, w.Knows t → (w'.trackerAt t).conditions = (w.trackerAt t).conditions
  free : ∀ t ∈ shut, ¬w.Holds t → ¬w'.Holds t
  idle : ∀ t ∈ shut, (w.trackerAt t).isActive = false → (w'.trackerAt t).isActive = false

namespace Later

theorem refl (shut : List Nat) (w : Workspace) : Later shut w w :=
  ⟨fun _ => id, fun _ => id, fun _ _ => rfl, fun _ _ => rfl, fun _ _ => id, fun _ _ => id⟩

theorem trans (h : Later shut w w') (h' : Later shut w' w'') : Later shut w w'' where
  knows := fun t known => h'.knows t (h.knows t known)
  hasSession := fun id has => h'.hasSession id (h.hasSession id has)
  store := fun t known => (h'.store t (h.knows t known)).trans (h.store t known)
  conditions := fun t known => (h'.conditions t (h.knows t known)).trans (h.conditions t known)
  free := fun t member free => h'.free t member (h.free t member free)
  idle := fun t member idle => h'.idle t member (h.idle t member idle)

theorem of_same (trackers : w'.trackers = w.trackers) (sessions : w'.sessions = w.sessions) :
    Later shut w w' := by
  have tracker (t : Nat) : w'.trackerAt t = w.trackerAt t := by rw [trackerAt, trackerAt, trackers]
  have holds (t : Nat) : w'.Holds t ↔ w.Holds t := by
    simp only [Holds, HasSession, sessionAt, sessions]
  refine ⟨fun t known => ?_, fun id has => ?_, fun t _ => ?_, fun t _ => ?_, fun t _ => ?_,
    fun t _ => ?_⟩
  · rwa [Knows, trackers]
  · rwa [HasSession, sessions]
  · rw [tracker]
  · rw [tracker]
  · rw [holds]
    exact id
  · rw [tracker]
    exact id

theorem updateTracker (f : Tracker → Tracker)
    (store : w.Knows t → (f (w.trackerAt t)).store = (w.trackerAt t).store)
    (conditions : w.Knows t → (f (w.trackerAt t)).conditions = (w.trackerAt t).conditions)
    (idle : t ∈ shut → (w.trackerAt t).isActive = false → (f (w.trackerAt t)).isActive = false) :
    Later shut w (w.updateTracker t f) := by
  refine ⟨fun other known => known.updateTracker t f, fun _ => id, fun other known => ?_,
    fun other known => ?_, fun _ _ => id, fun other member => ?_⟩ <;>
    by_cases same : other = t
  · subst same
    rw [trackerAt_updateTracker, store known]
  · rw [trackerAt_updateTracker_of_ne w same]
  · subst same
    rw [trackerAt_updateTracker, conditions known]
  · rw [trackerAt_updateTracker_of_ne w same]
  · subst same
    rw [trackerAt_updateTracker]
    exact idle member
  · rw [trackerAt_updateTracker_of_ne w same]
    exact id

theorem putSession {id : Nat} {session : Session}
    (tracker : w.HasSession id ∧ session.tracker = (w.sessionAt id).tracker ∨
      Owns shut session w) : Later shut w (w.putSession id session) := by
  refine ⟨fun _ known => known, fun other has => Table.mem_keys_write.mpr (.inr has),
    fun _ _ => rfl, fun _ _ => rfl, fun t member free holds => ?_, fun _ _ idle => idle⟩
  rcases holds_putSession holds with rfl | holds
  · rcases tracker with ⟨known, same⟩ | ⟨-, allowed, -⟩
    · exact free ⟨id, known, same.symm⟩
    · exact allowed member
  · exact free holds

end Later

theorem Change.later (change : Change shut w w') : Later shut w w' := by
  cases change with
  | store s f trackers => exact .of_same rfl rfl
  | create s fields =>
      exact .updateTracker _ (fun known => absurd known w.not_knows_fresh)
        (fun known => absurd known w.not_knows_fresh) fun _ _ => rfl
  | tracker t f store conditions isActive formed =>
      exact .updateTracker f (fun _ => store) (fun _ => conditions)
        fun _ idle => isActive.trans idle
  | start t allowed known idle =>
      have before : Later shut w (w.updateStore (w.trackerAt t).store (·.subscribe (.tracker t))) :=
        .of_same rfl rfl
      exact before.trans (.updateTracker _ (fun _ => rfl) (fun _ => rfl)
        fun member => absurd member allowed)
  | stop t active =>
      have before : Later shut w
          (w.updateStore (w.trackerAt t).store (·.unsubscribe (.tracker t))) := .of_same rfl rfl
      exact before.trans (.updateTracker _ (fun _ => rfl) (fun _ => rfl) fun _ _ => rfl)
  | session id session tracker => exact .putSession tracker
  | elsewhere w' stores trackers sessions => exact .of_same trackers sessions
  | _ => exact .of_same rfl rfl

/-- Several things that happen one after the other while some trackers are shut. -/
def Changes (shut : List Nat) : Workspace → Workspace → Prop :=
  Relation.ReflTransGen (Change shut)

theorem Change.changes (change : Change shut w w') : Changes shut w w' := .single change

theorem Change.mono (change : Change more w w') (within : shut ⊆ more) : Change shut w w' := by
  cases change with
  | store s f trackers => exact .store s f trackers
  | create s fields => exact .create s fields
  | tracker t f store conditions isActive formed =>
      exact .tracker t f store conditions isActive formed
  | start t allowed known idle => exact .start t (fun member => allowed (within member)) known idle
  | stop t active => exact .stop t active
  | useTracker t allowed known free =>
      exact .useTracker t (fun member => allowed (within member)) known free
  | session id session tracker =>
      refine .session id session (tracker.imp_right fun ⟨known, allowed, apart⟩ => ?_)
      exact ⟨known, fun member => allowed (within member), apart⟩
  | useSession id known => exact .useSession id known
  | nameSession name id known => exact .nameSession name id known
  | subscription name subscription host => exact .subscription name subscription host
  | elsewhere w' stores trackers sessions tracker session sessionNames subscriptions =>
      exact .elsewhere w' stores trackers sessions tracker session sessionNames subscriptions

namespace Changes

theorem then_ (changes : Changes shut w w') (change : Change shut w' w'') : Changes shut w w'' :=
  Relation.ReflTransGen.tail changes change

theorem trans (first : Changes shut w w') (second : Changes shut w' w'') : Changes shut w w'' :=
  Relation.ReflTransGen.trans first second

theorem mono (changes : Changes more w w') (within : shut ⊆ more) : Changes shut w w' := by
  induction changes with
  | refl => exact .refl
  | tail _ change ih => exact ih.tail (change.mono within)

theorem orderly (changes : Changes shut w w') (orderly : w.Orderly shut) : w'.Orderly shut := by
  induction changes with
  | refl => exact orderly
  | tail _ change ih => exact ih.change change

theorem later (changes : Changes shut w w') : Later shut w w' := by
  induction changes with
  | refl => exact .refl shut w
  | tail _ change ih => exact ih.trans change.later

end Changes

end Workspace

end Formwork
