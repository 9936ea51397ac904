import Formwork.Proofs.Entries
import Formwork.Proofs.Workspace.Effect

/-! # Hosts that merely record

The functions of a host that only record what they are told leave no trace but notes: an
event, and one call less on a script. So telling them of a change succeeds and leaves the
stores, the trackers and everything else as they were.
-/

namespace Formwork

/-- A script that does nothing the next time it is called, nor any time after. -/
def Script.Idle (script : Script) : Prop := script.calls = 0 ∨ script.actions = []

namespace Workspace

variable {w w' : Workspace}

/-- All functions of the host merely record what they are told. -/
structure Records (w : Workspace) : Prop where
  scripts : ∀ name script, w.scripts.get? name = some script → script.Idle
  watchScripts : ∀ name script, w.watchScripts.get? name = some script → script.Idle

theorem Records.unscripted (scripts : w.scripts = []) (watchScripts : w.watchScripts = []) :
    w.Records := by
  refine ⟨?_, ?_⟩
  · intro name script found
    rw [scripts] at found
    cases found
  · intro name script found
    rw [watchScripts] at found
    cases found

theorem Records.of_calls (scripts : ∀ entry ∈ w.scripts, entry.2.calls = 0)
    (watchScripts : ∀ entry ∈ w.watchScripts, entry.2.calls = 0) : w.Records where
  scripts := fun _ _ found => .inl (scripts _ (Entries.mem_of_get? found))
  watchScripts := fun _ _ found => .inl (watchScripts _ (Entries.mem_of_get? found))

/-- Only notes set the second workspace apart from the first. -/
structure Notes (w w' : Workspace) : Prop where
  stores : w'.stores = w.stores
  trackers : w'.trackers = w.trackers
  others : w'.withoutForms = w.withoutForms
  events : w.Adds w'
  records : w'.Records

theorem Notes.refl (records : w.Records) : w.Notes w := ⟨rfl, rfl, rfl, .refl w, records⟩

theorem Notes.trans {w'' : Workspace} (h : w.Notes w') (h' : w'.Notes w'') : w.Notes w'' where
  stores := h'.stores.trans h.stores
  trackers := h'.trackers.trans h.trackers
  others := h'.others.trans h.others
  events := h.events.trans h'.events
  records := h'.records

theorem Notes.storeAt (h : w.Notes w') (id : Nat) : w'.storeAt id = w.storeAt id := by
  rw [Workspace.storeAt, Workspace.storeAt, h.stores]

theorem Notes.trackerAt (h : w.Notes w') (id : Nat) : w'.trackerAt id = w.trackerAt id := by
  rw [Workspace.trackerAt, Workspace.trackerAt, h.trackers]

theorem Records.addNotices (records : w.Records) (notices : List Notice) :
    w.Notes (w.addNotices notices) :=
  ⟨rfl, rfl, rfl, .refl w, ⟨records.scripts, records.watchScripts⟩⟩

theorem Records.addEvent (records : w.Records) {event : Event}
    (silent : ∀ data, event ≠ .submitted data) : w.Notes (w.addEvent event) := by
  refine ⟨rfl, rfl, rfl, ⟨[event], rfl, fun data member => ?_⟩,
    ⟨records.scripts, records.watchScripts⟩⟩
  exact silent data (List.mem_singleton.mp member).symm

/-! ## What functions of the host are told -/

/-- The maps that listeners of trackers were told, each with the name of the listener. -/
def published (w : Workspace) : List (String × Visibility) :=
  w.events.filterMap fun event => match event with
    | .shown listener map => some (listener, map)
    | _ => none

theorem published_append (events more : List Event) :
    published { events := events ++ more } =
      published { events } ++ published { events := more } :=
  List.filterMap_append

/-- Only notes set the second workspace apart from the first, and these are the events among
    them. -/
structure Logs (w : Workspace) (said : List Event) (w' : Workspace) : Prop
    extends Notes w w' where
  said : w'.events = w.events ++ said

theorem Logs.published {said : List Event} (h : w.Logs said w') :
    w'.published = w.published ++ Workspace.published { events := said } := by
  unfold Workspace.published
  rw [h.said, List.filterMap_append]

theorem Logs.nothing (h : w.Notes w') (events : w'.events = w.events) : w.Logs [] w' :=
  ⟨h, by rw [events, List.append_nil]⟩

theorem Logs.trans {w'' : Workspace} {said more : List Event} (h : w.Logs said w')
    (h' : w'.Logs more w'') : w.Logs (said ++ more) w'' where
  toNotes := h.toNotes.trans h'.toNotes
  said := by rw [h'.said, h.said, List.append_assoc]

theorem Records.log (records : w.Records) (event : Event)
    (silent : ∀ data, event ≠ .submitted data) : w.Logs [event] (w.addEvent event) :=
  ⟨records.addEvent silent, rfl⟩

/-- What functions of the host among some listeners are told of a change. -/
def wordOf (names : List String) (values : Entries Value) (listeners : List Listener) :
    List Event :=
  listeners.filterMap fun listener => match listener with
    | .host name => some (.changed name names values)
    | .tracker _ => none

theorem published_wordOf (names : List String) (values : Entries Value)
    (listeners : List Listener) : published { events := wordOf names values listeners } = [] := by
  induction listeners with
  | nil => rfl
  | cons listener rest ih =>
      cases listener with
      | host name => exact ih
      | tracker id => exact ih

/-! ## Calling functions of the host -/

theorem nextCall_idle {script : Script} (idle : script.Idle) :
    (nextCall script).1 = [] ∧ (nextCall script).2.Idle := by
  unfold nextCall
  split
  · exact ⟨rfl, idle⟩
  next more =>
    have nothing : script.actions = [] := idle.resolve_left more
    exact ⟨nothing, .inr nothing⟩

theorem getD_idle {scripts : Entries Script} (name : String)
    (idle : ∀ name script, scripts.get? name = some script → script.Idle) :
    ((scripts.get? name).getD {}).Idle := by
  cases found : scripts.get? name with
  | none => exact .inl rfl
  | some script => exact idle name script found

theorem takeActions_logs (records : w.Records) (listener : String) :
    Effect.Yields (takeActions listener w) fun actions after =>
      actions = [] ∧ w.Logs [] after := by
  have call := nextCall_idle (getD_idle listener records.scripts)
  refine ⟨_, _, rfl, call.1, .nothing ⟨rfl, rfl, rfl, .refl w, ?_⟩ rfl⟩
  exact ⟨Entries.forall_get?_put records.scripts call.2, records.watchScripts⟩

theorem takeWatchActions_logs (records : w.Records) (listener : String) :
    Effect.Yields (takeWatchActions listener w) fun actions after =>
      actions = [] ∧ w.Logs [] after := by
  have call := nextCall_idle (getD_idle listener records.watchScripts)
  refine ⟨_, _, rfl, call.1, .nothing ⟨rfl, rfl, rfl, .refl w, ?_⟩ rfl⟩
  exact ⟨records.scripts, Entries.forall_get?_put records.watchScripts call.2⟩

variable (depth : Nat)

theorem changed_host (records : w.Records) (name : String) (names : List String)
    (values : Entries Value) :
    Effect.Yields ((callbacks (depth + 1)).changed (.host name) names values w)
      fun _ after => w.Logs [.changed name names values] after := by
  have event := records.log (.changed name names values) nofun
  obtain ⟨actions, after, run, rfl, taken⟩ := takeActions_logs event.records name
  exact ⟨(), after, Effect.bind_of_ok run _, event.trans taken⟩

theorem shown_host (records : w.Records) (name : String) (map : Visibility) :
    Effect.Yields ((callbacks (depth + 1)).shown name map w)
      fun _ after => w.Logs [.shown name map] after := by
  have event := records.log (.shown name map) nofun
  obtain ⟨actions, after, run, rfl, taken⟩ := takeWatchActions_logs event.records name
  exact ⟨(), after, Effect.bind_of_ok run _, event.trans taken⟩

theorem callWatchers_logs (records : w.Records) (map : Visibility)
    (listeners : List String) :
    Effect.Yields (callWatchers (callbacks (depth + 1)) map listeners w)
      fun _ after => w.Logs (listeners.map fun listener => .shown listener map) after := by
  induction listeners generalizing w with
  | nil => exact ⟨(), w, rfl, .nothing (.refl records) rfl⟩
  | cons listener rest ih =>
      refine (shown_host depth records listener map).bind fun _ between told => ?_
      exact (ih told.records).mono fun _ after later => told.trans later

/-! ## Telling of changes that no tracker reacts to -/

/-- Who hears of a change without reacting to it: functions of the host, and trackers that
    are themselves telling of removed values. -/
def IsDeaf (w : Workspace) : Listener → Prop
  | .tracker id => (w.trackerAt id).isAnnouncing = true
  | .host _ => True

theorem changed_deaf (records : w.Records) {listener : Listener} (deaf : w.IsDeaf listener)
    (names : List String) (values : Entries Value) :
    Effect.Yields ((callbacks (depth + 1)).changed listener names values w)
      fun _ after => w.Logs (wordOf names values [listener]) after := by
  cases listener with
  | host name => exact changed_host depth records name names values
  | tracker id =>
      have nothing : (w.trackerAt id).reactsTo names = [] := by
        simp only [Tracker.reactsTo, show (w.trackerAt id).isAnnouncing = true from deaf, if_true]
      refine ⟨(), w, ?_, .nothing (.refl records) rfl⟩
      show react (callbacks depth) id names w = _
      have run : (get : Effect Workspace) w = (.ok w, w) := rfl
      rw [react, Effect.bind_of_ok run, nothing]
      rfl

theorem callListeners_cons (hooks : Hooks) (store : Nat) (names : List String)
    (listener : Listener) (rest : List Listener) (w : Workspace) :
    callListeners hooks store names (listener :: rest) w =
      (hooks.changed listener names (w.storeAt store).values >>=
        fun _ => callListeners hooks store names rest) w := rfl

theorem IsDeaf.of_notes (h : w.Notes w') {listener : Listener} (deaf : w.IsDeaf listener) :
    w'.IsDeaf listener := by
  cases listener with
  | host name => trivial
  | tracker id =>
      show (w'.trackerAt id).isAnnouncing = true
      rw [h.trackerAt]
      exact deaf

theorem callListeners_deaf (records : w.Records) (store : Nat) (names : List String)
    {listeners : List Listener} (deaf : ∀ listener ∈ listeners, w.IsDeaf listener) :
    Effect.Yields (callListeners (callbacks (depth + 1)) store names listeners w)
      fun _ after => w.Logs (wordOf names (w.storeAt store).values listeners) after := by
  induction listeners generalizing w with
  | nil => exact ⟨(), w, rfl, .nothing (.refl records) rfl⟩
  | cons listener rest ih =>
      rw [callListeners_cons]
      refine (changed_deaf depth records (deaf listener List.mem_cons_self) names _).bind
        fun _ between told => ?_
      have still : ∀ other ∈ rest, between.IsDeaf other := fun other member =>
        (deaf other (List.mem_cons_of_mem _ member)).of_notes told.toNotes
      refine (ih told.records still).mono fun _ after later => ?_
      rw [told.storeAt] at later
      have split : wordOf names (w.storeAt store).values (listener :: rest) =
          wordOf names (w.storeAt store).values [listener] ++
            wordOf names (w.storeAt store).values rest :=
        List.filterMap_append (l := [listener])
      rw [split]
      exact told.trans later

theorem notify_apply (hooks : Hooks) (store : Nat) (names : List String) (w : Workspace) :
    notify hooks store names w =
      if names.isEmpty then (.ok (), w)
      else callListeners hooks store names (w.storeAt store).listeners w := by
  unfold notify
  cases names <;> rfl

/-- What functions of the host that listen to a store are told of a change, if there is one. -/
def wordAt (store : Store) (names : List String) : List Event :=
  if names.isEmpty then [] else wordOf names store.values store.listeners

theorem wordAt_nil (store : Store) : wordAt store [] = [] := rfl

theorem published_wordAt (store : Store) (names : List String) :
    published { events := wordAt store names } = [] := by
  unfold wordAt
  split
  · rfl
  · exact published_wordOf _ _ _

theorem notify_deaf (records : w.Records) (store : Nat) (names : List String)
    (deaf : ∀ listener ∈ (w.storeAt store).listeners, w.IsDeaf listener) :
    Effect.Yields (notify (callbacks (depth + 1)) store names w)
      fun _ after => w.Logs (wordAt (w.storeAt store) names) after := by
  unfold wordAt
  rw [notify_apply]
  split
  · exact ⟨(), w, rfl, .nothing (.refl records) rfl⟩
  · exact callListeners_deaf depth records store names deaf

end Workspace

end Formwork
