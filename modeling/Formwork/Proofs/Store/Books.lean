import Formwork.Proofs.Host.Calls
import Formwork.Proofs.Entries
import Mathlib.Data.List.Count
import Mathlib.Data.List.Dedup

/-! # The books of a store

A store is told who is to be called when it changes. Subscriptions know whether they are closed, and
trackers whether they are active, so there is a second account of who listens: whoever has an open
subscription, once for each of them, and every active tracker. The two agree, whatever is called in
whatever order, in the middle of other calls, and whoever fails.
-/

namespace Formwork

open Effect

namespace Workspace

variable {hooks : Hooks} {w w' : Workspace} {s t : Nat} {handle listener : String}

/-! ## Subscriptions -/

/-- A function of the host listens to a store, and there is a subscription for that. -/
def subscribed (w : Workspace) (s : Nat) (handle listener : String) : Workspace :=
  (subscribe handle listener [] 0 { w with store := s }).2

/-- A subscription is closed, and its listener is removed. -/
def unsubscribed (w : Workspace) (handle : String) (subscription : Subscription) : Workspace :=
  { w.updateStore subscription.store (·.unsubscribe subscription.listener) with
    subscriptions := w.subscriptions.put handle { subscription with isClosed := true } }

theorem perform_subscribe (hooks : Hooks) (s : Nat) (handle listener : String) (w : Workspace) :
    (Call.subscribe handle listener).perform hooks s w =
      if w.subscriptions.has handle then (.ok (.flag false), w)
      else (.ok (.flag true), w.subscribed s handle listener) := by
  rw [Call.perform, get_bind]
  split <;> rfl

theorem unsubscribe_apply (handle : String) (w : Workspace) :
    unsubscribe handle w =
      match w.subscriptions.get? handle with
      | none => (.error (.unknownName handle), w)
      | some subscription =>
          (.ok (), if subscription.isClosed then w else w.unsubscribed handle subscription) := by
  unfold unsubscribe
  rw [get_bind]
  cases w.subscriptions.get? handle with
  | none => rfl
  | some subscription =>
      obtain ⟨store, listener, _ | _⟩ := subscription <;> rfl

/-- Which subscriptions to a store are open, and who is called for them. -/
def openOn (w : Workspace) (s : Nat) : Entries Listener :=
  Entries.mapValues (·.listener)
    (w.subscriptions.filter fun entry => entry.2.store == s && !entry.2.isClosed)

theorem mem_openOn {entry : String × Listener} :
    entry ∈ w.openOn s ↔ ∃ subscription, (entry.1, subscription) ∈ w.subscriptions ∧
      subscription.store = s ∧ subscription.isClosed = false ∧
        subscription.listener = entry.2 := by
  simp only [openOn, Entries.mapValues, List.mem_map, List.mem_filter, Bool.and_eq_true, beq_iff_eq,
    Bool.not_eq_true']
  constructor
  · rintro ⟨⟨name, subscription⟩, ⟨member, here, open_⟩, rfl⟩
    exact ⟨subscription, member, here, open_, rfl⟩
  · rintro ⟨subscription, member, here, open_, same⟩
    exact ⟨(entry.1, subscription), ⟨member, here, open_⟩, Prod.ext rfl same⟩

theorem nodup_openOn (handles : w.subscriptions.names.Nodup) (s : Nat) :
    (w.openOn s).names.Nodup := by
  unfold openOn Entries.names Entries.mapValues
  rw [List.map_map]
  exact Entries.nodup_filter handles _

theorem openOn_subscribed (fresh : handle ∉ w.subscriptions.names) (s other : Nat)
    (listener : String) : (w.subscribed s handle listener).openOn other =
      w.openOn other ++ if other = s then [(handle, .host listener)] else [] := by
  have entries : (w.subscribed s handle listener).subscriptions =
      w.subscriptions ++ [(handle, { store := s, listener := .host listener })] :=
    Entries.put_of_not_mem fresh _
  unfold openOn Entries.mapValues
  rw [entries, List.filter_append, List.map_append]
  by_cases same : other = s
  · simp [same]
  · simp [same, Ne.symm same]

theorem openOn_unsubscribed (handles : w.subscriptions.names.Nodup) {subscription : Subscription}
    (found : w.subscriptions.get? handle = some subscription) (s : Nat) :
    (w.unsubscribed handle subscription).openOn s = (w.openOn s).drop handle := by
  have known : handle ∈ w.subscriptions.names :=
    List.mem_map.mpr ⟨_, Entries.mem_of_get? found, rfl⟩
  have kept := Entries.filter_put handles known
    (fun subscription => subscription.store == s && !subscription.isClosed)
    { subscription with isClosed := true } (Bool.and_false _)
  unfold openOn Entries.mapValues Entries.drop
  rw [List.filter_map]
  exact congrArg _ kept

/-- Which trackers listen to a store, as far as they know. -/
def activeOn (w : Workspace) (s : Nat) : List Nat :=
  ((w.trackers.map (·.1)).dedup).filter fun t =>
    (w.trackerAt t).isActive && (w.trackerAt t).store == s

theorem nodup_activeOn (w : Workspace) (s : Nat) : (w.activeOn s).Nodup :=
  (List.nodup_dedup _).filter _

theorem mem_activeOn : t ∈ w.activeOn s ↔
    (w.trackerAt t).isActive = true ∧ (w.trackerAt t).store = s := by
  simp only [activeOn, List.mem_filter, List.mem_dedup, Bool.and_eq_true, beq_iff_eq,
    and_iff_right_iff_imp]
  rintro ⟨active, -⟩
  by_contra unknown
  rw [trackerAt_of_not_knows unknown] at active
  cases active

theorem count_activeOn (w : Workspace) (s t : Nat) : (w.activeOn s).count t = w.attachment s t := by
  rw [attachment]
  split
  next listens =>
    exact List.count_eq_one_of_mem (w.nodup_activeOn s) (mem_activeOn.mpr listens)
  next silent => exact List.count_eq_zero.mpr (mt mem_activeOn.mp silent)

/-- How often a listener is to be among those of a store. -/
def due (w : Workspace) (s : Nat) : Listener → Nat
  | .tracker t => w.attachment s t
  | .host name => ((w.openOn s).map (·.2)).count (.host name)

theorem due_tracker (w : Workspace) (s t : Nat) : w.due s (.tracker t) = w.attachment s t := rfl

theorem due_host (w : Workspace) (s : Nat) (name : String) :
    w.due s (.host name) = ((w.openOn s).map (·.2)).count (.host name) := rfl

/-- The listeners of every store are those that subscriptions and trackers take them to be. -/
structure Booked (w : Workspace) : Prop where
  counted : ∀ s listener, (w.storeAt s).listeners.count listener = w.due s listener
  hosts : ∀ handle subscription, w.subscriptions.get? handle = some subscription →
    ∃ listener, subscription.listener = .host listener
  handles : w.subscriptions.names.Nodup

namespace Booked

theorem of_same (booked : w.Booked) (subscriptions : w'.subscriptions = w.subscriptions)
    (attached : ∀ s t, w'.attachment s t = w.attachment s t)
    (listeners : ∀ s, (w'.storeAt s).listeners = (w.storeAt s).listeners) : w'.Booked := by
  refine ⟨fun s listener => ?_, ?_, ?_⟩
  · rw [listeners, booked.counted]
    cases listener with
    | tracker t => exact (attached s t).symm
    | host name => rw [due_host, due_host, openOn, openOn, subscriptions]
  · rw [subscriptions]
    exact booked.hosts
  · rw [subscriptions]
    exact booked.handles

/-- A tracker begins to listen, or ceases to, and the listeners of its store become others. -/
theorem switch (booked : w.Booked) (f : Store → Store) (isActive : Bool)
    (others : ∀ listener, listener ≠ .tracker t →
      (f (w.storeAt (w.trackerAt t).store)).listeners.count listener =
        (w.storeAt (w.trackerAt t).store).listeners.count listener)
    (itself : (f (w.storeAt (w.trackerAt t).store)).listeners.count (.tracker t) =
      if isActive then 1 else 0) :
    ((w.updateStore (w.trackerAt t).store f).updateTracker t
      fun tracker => { tracker with isActive }).Booked := by
  have at_t := trackerAt_updateTracker (w.updateStore (w.trackerAt t).store f) t
    fun tracker => { tracker with isActive }
  refine ⟨fun s listener => ?_, booked.hosts, booked.handles⟩
  show ((w.updateStore _ f).storeAt s).listeners.count listener = _
  by_cases other : listener = .tracker t
  · subst other
    rw [due, attachment, at_t]
    by_cases here : s = (w.trackerAt t).store
    · subst here
      rw [storeAt_updateStore, itself]
      cases isActive <;> simp [trackerAt_updateStore]
    · rw [storeAt_updateStore_of_ne w here, booked.counted, due]
      simp [attachment, trackerAt_updateStore, Ne.symm here]
  · have same : due ((w.updateStore (w.trackerAt t).store f).updateTracker t
        fun tracker => { tracker with isActive }) s listener = w.due s listener := by
      cases listener with
      | host name => rfl
      | tracker id =>
          have apart : id ≠ t := fun same => other (congrArg Listener.tracker same)
          have off_t := trackerAt_updateTracker_of_ne (w.updateStore (w.trackerAt t).store f) apart
            fun tracker => { tracker with isActive }
          exact attachment_of_same (congrArg _ off_t) (congrArg _ off_t) s
    rw [same, ← booked.counted]
    by_cases here : s = (w.trackerAt t).store
    · subst here
      rw [storeAt_updateStore, others listener other]
    · rw [storeAt_updateStore_of_ne w here]

theorem updateTracker (booked : w.Booked) (f : Tracker → Tracker)
    (attached : ∀ s, (w.updateTracker t f).attachment s t = w.attachment s t) :
    (w.updateTracker t f).Booked := by
  refine booked.of_same rfl (fun s other => ?_) fun _ => rfl
  by_cases same : other = t
  · rw [same, attached]
  · have unchanged := trackerAt_updateTracker_of_ne w same f
    exact attachment_of_same (congrArg _ unchanged) (congrArg _ unchanged) s

theorem switchable : Switchable Booked where
  store s f listeners booked := by
    refine booked.of_same rfl (fun _ _ => rfl) fun other => ?_
    by_cases same : other = s
    · rw [same, storeAt_updateStore, listeners]
    · rw [storeAt_updateStore_of_ne _ same]
  tracker t f store isActive booked := by
    refine booked.updateTracker f fun s => attachment_of_same ?_ ?_ s
    · rw [trackerAt_updateTracker, isActive]
    · rw [trackerAt_updateTracker, store]
  create {w} s fields booked := by
    have idle : (w.trackerAt w.trackers.fresh).isActive = false := by
      rw [trackerAt_of_not_knows w.not_knows_fresh]
      rfl
    refine booked.updateTracker _ fun other => ?_
    simp [attachment, trackerAt_updateTracker, idle, Tracker.ofFields]
  apart {w w'} apart booked := by
    have store (s : Nat) : w'.storeAt s = w.storeAt s := by rw [storeAt, storeAt, apart.stores]
    have tracker (t : Nat) : w'.trackerAt t = w.trackerAt t := by
      rw [trackerAt, trackerAt, apart.trackers]
    refine booked.of_same apart.subscriptions (fun s t => ?_) fun s => by rw [store]
    exact attachment_of_same (congrArg _ (tracker t)) (congrArg _ (tracker t)) s
  start {w} t idle booked := by
    have counted := booked.counted (w.trackerAt t).store (.tracker t)
    refine booked.switch _ true (fun listener other => ?_) ?_
    · simp [Store.subscribe, List.count_append, Ne.symm other]
    · simp [Store.subscribe, List.count_append, counted, due, attachment, idle]
  stop {w} t active booked := by
    have counted := booked.counted (w.trackerAt t).store (.tracker t)
    refine booked.switch _ false (fun listener other => ?_) ?_
    · exact List.count_erase_of_ne other
    · simp [Store.unsubscribe, List.count_erase_self, counted, due, attachment, active]
  session id session booked := booked.of_same rfl (fun _ _ => rfl) fun _ => rfl

theorem subscribed (booked : w.Booked) (fresh : handle ∉ w.subscriptions.names) (s : Nat)
    (listener : String) : (w.subscribed s handle listener).Booked := by
  have stores (other : Nat) : (w.subscribed s handle listener).storeAt other =
      (w.updateStore s (·.subscribe (.host listener))).storeAt other := rfl
  refine ⟨fun other who => ?_, Entries.forall_get?_put booked.hosts ⟨listener, rfl⟩,
    Entries.nodup_put booked.handles _ _⟩
  have due : (w.subscribed s handle listener).due other who =
      w.due other who + if other = s then [Listener.host listener].count who else 0 := by
    cases who with
    | tracker t =>
        have none : [Listener.host listener].count (.tracker t) = 0 := by simp
        rw [none, ite_self]
        rfl
    | host name =>
        rw [due_host, due_host, openOn_subscribed fresh, List.map_append, List.count_append]
        split <;> rfl
  rw [stores, due, ← booked.counted]
  by_cases same : other = s
  · subst same
    rw [storeAt_updateStore, if_pos rfl]
    exact List.count_append
  · rw [storeAt_updateStore_of_ne w same, if_neg same]
    rfl

/-- The subscription of a handle that is open on a store is the only one of that handle. -/
theorem openOn_perm (booked : w.Booked) {subscription : Subscription}
    (found : w.subscriptions.get? handle = some subscription)
    (open_ : subscription.isClosed = false) : (w.openOn subscription.store).Perm
      ((handle, subscription.listener) :: (w.openOn subscription.store).drop handle) := by
  have distinct := nodup_openOn booked.handles subscription.store
  refine Entries.perm_cons_drop distinct (Entries.get?_of_mem distinct ?_)
  exact mem_openOn.mpr ⟨subscription, Entries.mem_of_get? found, rfl, open_, rfl⟩

theorem drop_openOn (booked : w.Booked) {subscription : Subscription}
    (found : w.subscriptions.get? handle = some subscription)
    (apart : subscription.store = s → subscription.isClosed = true) :
    (w.openOn s).drop handle = w.openOn s := by
  refine Entries.drop_of_not_mem fun member => ?_
  obtain ⟨⟨name, listener⟩, listed, rfl⟩ := List.mem_map.mp member
  obtain ⟨other, member, here, open_, -⟩ := mem_openOn.mp listed
  cases found.symm.trans (Entries.get?_of_mem booked.handles member)
  rw [apart here] at open_
  cases open_

theorem unsubscribed (booked : w.Booked) {subscription : Subscription}
    (found : w.subscriptions.get? handle = some subscription)
    (open_ : subscription.isClosed = false) : (w.unsubscribed handle subscription).Booked := by
  have stores (s : Nat) : (w.unsubscribed handle subscription).storeAt s =
      (w.updateStore subscription.store (·.unsubscribe subscription.listener)).storeAt s := rfl
  obtain ⟨name, host⟩ := booked.hosts _ _ found
  refine ⟨fun s who => ?_, Entries.forall_get?_put booked.hosts ⟨name, host⟩,
    Entries.nodup_put booked.handles _ _⟩
  have due : (w.unsubscribed handle subscription).due s who = w.due s who -
      if s = subscription.store then [subscription.listener].count who else 0 := by
    cases who with
    | tracker t =>
        have none : [subscription.listener].count (.tracker t) = 0 := by simp [host]
        rw [none, ite_self]
        rfl
    | host other =>
        rw [due_host, due_host, openOn_unsubscribed booked.handles found]
        by_cases here : s = subscription.store
        · subst here
          rw [((booked.openOn_perm found open_).map _).count_eq, List.map_cons,
            ← List.singleton_append, List.count_append, if_pos rfl, Nat.add_sub_cancel_left]
        · rw [booked.drop_openOn found fun same => absurd same.symm here, if_neg here]
          rfl
  rw [stores, due, ← booked.counted]
  by_cases here : s = subscription.store
  · subst here
    rw [storeAt_updateStore, if_pos rfl]
    simp [Store.unsubscribe, List.count_erase, List.count_singleton]
  · rw [storeAt_updateStore_of_ne w here, if_neg here]
    rfl

theorem perform (retain : hooks.Retain Booked) (s : Nat) (call : Call) :
    Keeps Booked (call.perform hooks s) := by
  cases call with
  | subscribe handle listener =>
      intro w booked
      rw [perform_subscribe]
      split
      · exact booked
      next unknown =>
        refine booked.subscribed (fun known => unknown ?_) s listener
        exact Entries.get?_isSome_iff.mpr known
  | unsubscribe handle =>
      refine .answering (fun w booked => ?_) _
      rw [unsubscribe_apply]
      split
      · exact booked
      next subscription found =>
        dsimp only
        split
        · exact booked
        next open_ => exact booked.unsubscribed found (Bool.not_eq_true _ ▸ open_)
  | _ => exact switchable.spared retain rfl s

theorem retained (functions : HostFunctions) (s depth : Nat) :
    (functions.hooks s depth).Retain Booked := by
  have all : functions.All fun _ => True :=
    ⟨fun _ _ _ => Routine.all_true _, fun _ _ => Routine.all_true _⟩
  exact all.retain switchable.toUnmoved (fun hooks retain call _ => perform retain s call) depth

theorem openOn_hosts (booked : w.Booked) :
    ∀ entry ∈ w.openOn s, ∃ name, entry.2 = .host name := by
  intro entry listed
  obtain ⟨subscription, member, -, -, same⟩ := mem_openOn.mp listed
  exact same ▸ booked.hosts _ _ (Entries.get?_of_mem booked.handles member)

/-- A store has the listeners of its open subscriptions and its active trackers, and no others. -/
theorem listeners_perm (booked : w.Booked) (s : Nat) : (w.storeAt s).listeners.Perm
    ((w.openOn s).map (·.2) ++ (w.activeOn s).map .tracker) := by
  refine List.perm_iff_count.mpr fun who => ?_
  rw [booked.counted, List.count_append]
  cases who with
  | host name =>
      have none : ((w.activeOn s).map Listener.tracker).count (.host name) = 0 := by
        simp [List.count_eq_zero]
      rw [due_host, none, Nat.add_zero]
  | tracker t =>
      have none : ((w.openOn s).map (·.2)).count (.tracker t) = 0 := by
        refine List.count_eq_zero.mpr fun member => ?_
        obtain ⟨entry, listed, same⟩ := List.mem_map.mp member
        obtain ⟨name, host⟩ := booked.openOn_hosts entry listed
        cases host.symm.trans same
      have injective : Function.Injective Listener.tracker := fun _ _ same => by cases same; rfl
      rw [due_tracker, none, Nat.zero_add, List.count_map_of_injective _ _ injective,
        count_activeOn]

theorem trackers_perm (booked : w.Booked) (s : Nat) :
    (w.storeAt s).trackers.Perm (w.activeOn s) := by
  have hosts : ((w.openOn s).map (·.2)).filterMap Listener.tracker? = [] := by
    refine List.filterMap_eq_nil_iff.mpr fun listener member => ?_
    obtain ⟨entry, listed, rfl⟩ := List.mem_map.mp member
    obtain ⟨name, host⟩ := booked.openOn_hosts entry listed
    rw [host]
    rfl
  have trackers : ((w.activeOn s).map Listener.tracker).filterMap Listener.tracker? =
      w.activeOn s := by
    rw [List.filterMap_map]
    exact List.filterMap_some
  have perm := (booked.listeners_perm s).filterMap Listener.tracker?
  rwa [List.filterMap_append, hosts, trackers] at perm

theorem count_tracker_le (booked : w.Booked) (s t : Nat) :
    (w.storeAt s).listeners.count (.tracker t) ≤ 1 := by
  rw [booked.counted, due_tracker, attachment]
  split <;> decide

end Booked

theorem Booked.start (trackers : w.trackers = []) (subscriptions : w.subscriptions = [])
    (vacant : ∀ s, (w.storeAt s).listeners = []) : w.Booked := by
  have idle (t : Nat) : w.trackerAt t = default := by rw [trackerAt, trackers]; rfl
  refine ⟨fun s who => ?_, ?_, ?_⟩
  · rw [vacant]
    cases who with
    | tracker t => rw [due_tracker, attachment, idle]; rfl
    | host name => rw [due_host, openOn, subscriptions]; rfl
  · rw [subscriptions]
    rintro handle subscription ⟨⟩
  · rw [subscriptions]
    exact List.nodup_nil

end Workspace

end Formwork
