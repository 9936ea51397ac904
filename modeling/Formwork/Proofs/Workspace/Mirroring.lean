import Formwork.Proofs.Visibility.Order
import Formwork.Proofs.Workspace.Effect

/-! # Workspaces side by side

Two workspaces that differ in the order of what they hold, and not in anything that a host could
make use of, stay so while the same is done in both. A computation in one and a computation in the
other are compared by what they answer and by the workspaces they leave, whether they succeed or
fail.
-/

namespace Formwork

/-- Two stores that differ in the order of what waits to be told. -/
structure Store.Mirrors (store other : Store) : Prop where
  values : store.values = other.values
  listeners : store.listeners = other.listeners
  batchDepth : store.batchDepth = other.batchDepth
  pending : Names.Same store.pending other.pending

theorem Store.Mirrors.refl (store : Store) : store.Mirrors store :=
  ⟨rfl, rfl, rfl, fun _ => Iff.rfl⟩

/-- Two events that tell a listener the same: the names of the same fields, or maps that are one
    mapping. -/
inductive Event.Mirrors : Event → Event → Prop where
  | same (event : Event) : Event.Mirrors event event
  | changed (listener : String) {names others : List String} (same : Names.Same names others)
      (values : Entries Value) :
      Event.Mirrors (.changed listener names values) (.changed listener others values)
  | shown (listener : String) {map other : Visibility}
      (same : ∀ name, map.get? name = other.get? name) :
      Event.Mirrors (.shown listener map) (.shown listener other)

/-- An action on stores and trackers. What it has listeners do is of this kind, too. -/
inductive Action.OnStores : Action → Prop where
  | get (name : String) (fallback : Value) : OnStores (.get name fallback)
  | has (name : String) : OnStores (.has name)
  | set (name : String) (value : Value) : OnStores (.set name value)
  | setMany (values : Entries Value) : OnStores (.setMany values)
  | clear (names : List String) (telling : Bool) : OnStores (.clear names telling)
  | publish (names : List String) : OnStores (.publish names)
  | openBatch : OnStores .openBatch
  | closeBatch (failing : Bool) : OnStores (.closeBatch failing)
  | subscribe (subscription listener : String) {script : List Action} (times : Nat)
      (scripted : ∀ action ∈ script, OnStores action) :
      OnStores (.subscribe subscription listener script times)
  | unsubscribe (subscription : String) : OnStores (.unsubscribe subscription)
  | fail (fault : HostFault) : OnStores (.fail fault)
  | track (schema : String) : OnStores (.track schema)
  | start : OnStores .start
  | stop : OnStores .stop
  | watch (listener : String) {script : List Action} (times : Nat)
      (scripted : ∀ action ∈ script, OnStores action) : OnStores (.watch listener script times)
  | unwatch (listener : String) : OnStores (.unwatch listener)
  | isVisible (name : String) : OnStores (.isVisible name)

/-- Whatever a script does it does to stores and trackers. -/
def Script.OnStores (script : Script) : Prop := ∀ action ∈ script.actions, action.OnStores

namespace Table

variable {α : Type}

theorem keys_write (table : Table α) (id : Nat) (value : α) :
    (table.write id value).map (·.1) =
      if id ∈ table.map (·.1) then table.map (·.1) else table.map (·.1) ++ [id] := by
  induction table with
  | nil => simp [write]
  | cons entry rest ih =>
      by_cases same : entry.1 = id
      · simp [write, same]
      · simp only [write, same, if_false, List.map_cons, ih, List.mem_cons, Ne.symm same, false_or]
        split <;> rfl

theorem fresh_eq (table : Table α) :
    table.fresh = (table.map (·.1)).foldl (fun next key => max next (key + 1)) 0 := by
  rw [fresh, List.foldl_map]

end Table

namespace Workspace

variable {w w' : Workspace}

/-- A workspace without its schemas, stores and trackers, and without what is merely noted. -/
def frame (w : Workspace) : Workspace :=
  { w with schemas := [], stores := [], trackers := [], events := [], notices := [] }

/-- Two workspaces that differ in the order of the fields of schemas and of what comes of it. -/
structure Mirrors (w w' : Workspace) : Prop where
  stores : ∀ id, (w.storeAt id).Mirrors (w'.storeAt id)
  trackers : ∀ id, (w.trackerAt id).Mirrors (w'.trackerAt id)
  keys : w.trackers.map (·.1) = w'.trackers.map (·.1)
  schemas : ∀ key, Option.Rel (fun schema other => Field.SameByName schema.fields other.fields)
    (w.schemas.get? key) (w'.schemas.get? key)
  frame : w.frame = w'.frame
  events : List.Forall₂ Event.Mirrors w.events w'.events
  removals : removals w.notices = removals w'.notices
  scripts : ∀ name script, w.scripts.get? name = some script → script.OnStores
  watchScripts : ∀ name script, w.watchScripts.get? name = some script → script.OnStores

namespace Mirrors

theorem reads {α : Type} (mirrors : w.Mirrors w') (read : Workspace → α)
    (onFrame : ∀ w, read w.frame = read w) : read w = read w' := by
  rw [← onFrame w, mirrors.frame, onFrame]

theorem store (mirrors : w.Mirrors w') : w.store = w'.store := mirrors.reads (·.store) fun _ => rfl

theorem fresh (mirrors : w.Mirrors w') : w.trackers.fresh = w'.trackers.fresh := by
  rw [Table.fresh_eq, Table.fresh_eq, mirrors.keys]

theorem trackers_length (mirrors : w.Mirrors w') : w.trackers.length = w'.trackers.length := by
  simpa using congrArg List.length mirrors.keys

theorem updateStore (mirrors : w.Mirrors w') (id : Nat) {f g : Store → Store}
    (alike : (f (w.storeAt id)).Mirrors (g (w'.storeAt id))) :
    (w.updateStore id f).Mirrors (w'.updateStore id g) := by
  refine { mirrors with stores := fun other => ?_, frame := mirrors.frame }
  by_cases same : other = id
  · subst same
    rwa [storeAt_updateStore, storeAt_updateStore]
  · rw [storeAt_updateStore_of_ne w same, storeAt_updateStore_of_ne w' same]
    exact mirrors.stores other

theorem updateInUse (mirrors : w.Mirrors w') (f : Store → Store)
    (alike : (f (w.storeAt w.store)).Mirrors (f (w'.storeAt w.store))) :
    (w.updateStore w.store f).Mirrors (w'.updateStore w'.store f) := by
  rw [← mirrors.store]
  exact mirrors.updateStore w.store alike

theorem updateTracker (mirrors : w.Mirrors w') (id : Nat) {f g : Tracker → Tracker}
    (alike : (f (w.trackerAt id)).Mirrors (g (w'.trackerAt id))) :
    (w.updateTracker id f).Mirrors (w'.updateTracker id g) := by
  refine { mirrors with trackers := fun other => ?_, keys := ?_, frame := mirrors.frame }
  · by_cases same : other = id
    · subst same
      rwa [trackerAt_updateTracker, trackerAt_updateTracker]
    · rw [trackerAt_updateTracker_of_ne w same, trackerAt_updateTracker_of_ne w' same]
      exact mirrors.trackers other
  · simp only [Workspace.updateTracker, Table.keys_write, mirrors.keys]

theorem addNotices (mirrors : w.Mirrors w') {notices others : List Notice}
    (same : Formwork.removals notices = Formwork.removals others) :
    (w.addNotices notices).Mirrors (w'.addNotices others) := by
  refine { mirrors with removals := ?_, frame := mirrors.frame }
  simp only [Workspace.addNotices, removals_append, mirrors.removals, same]

theorem addEvent (mirrors : w.Mirrors w') {event other : Event} (same : event.Mirrors other) :
    (w.addEvent event).Mirrors (w'.addEvent other) := by
  refine { mirrors with events := ?_, frame := mirrors.frame }
  exact List.rel_append mirrors.events (.cons same .nil)

theorem reframe (mirrors : w.Mirrors w') (f : Workspace → Workspace)
    (apart : ∀ w, f w = { f w.frame with
      schemas := w.schemas, stores := w.stores, trackers := w.trackers, events := w.events
      notices := w.notices })
    (scripts : ∀ name script, (f w).scripts.get? name = some script → script.OnStores)
    (watchScripts : ∀ name script, (f w).watchScripts.get? name = some script → script.OnStores) :
    (f w).Mirrors (f w') := by
  rw [apart w] at scripts watchScripts ⊢
  rw [apart w', ← mirrors.frame]
  exact { mirrors with frame := rfl, scripts, watchScripts }

end Mirrors

end Workspace

namespace Effect

variable {α β γ δ : Type} {same : α → β → Prop} {first : Effect α} {second : Effect β}

/-- Both computations succeed, with answers that are so to each other, or both fail, with the same
    fault. -/
inductive Answers (same : α → β → Prop) : Except Fault α → Except Fault β → Prop where
  | ok {answer : α} {other : β} (alike : same answer other) : Answers same (.ok answer) (.ok other)
  | error (fault : Fault) : Answers same (.error fault) (.error fault)

/-- Two computations that do the same to workspaces that mirror each other. -/
def Mirrors (same : α → β → Prop) (first : Effect α) (second : Effect β) : Prop :=
  ∀ w w' : Workspace, w.Mirrors w' →
    Answers same (first w).1 (second w').1 ∧ (first w).2.Mirrors (second w').2

namespace Mirrors

theorem pure {answer : α} {other : β} (alike : same answer other) :
    Mirrors same (Pure.pure answer) (Pure.pure other) :=
  fun _ _ mirrors => ⟨.ok alike, mirrors⟩

theorem fail (fault : Fault) : Mirrors same (throw fault) (throw fault) :=
  fun _ _ mirrors => ⟨.error fault, mirrors⟩

theorem read : Mirrors Workspace.Mirrors (get : Effect Workspace) get :=
  fun _ _ mirrors => ⟨.ok mirrors, mirrors⟩

theorem change {f g : Workspace → Workspace}
    (keeps : ∀ w w' : Workspace, w.Mirrors w' → (f w).Mirrors (g w')) :
    Mirrors Eq (modify f) (modify g) :=
  fun w w' mirrors => ⟨.ok rfl, keeps w w' mirrors⟩

theorem bind {same' : γ → δ → Prop} {next : α → Effect γ} {next' : β → Effect δ}
    (h : Mirrors same first second)
    (rest : ∀ answer other, same answer other → Mirrors same' (next answer) (next' other)) :
    Mirrors same' (first >>= next) (second >>= next') := by
  intro w w' mirrors
  have ran := h w w' mirrors
  rcases run : first w with ⟨fault | answer, between⟩
  all_goals rcases run' : second w' with ⟨fault' | other, between'⟩
  all_goals rw [run, run'] at ran
  · rw [bind_of_error run, bind_of_error run']
    obtain ⟨⟨-⟩, later⟩ := ran
    exact ⟨.error _, later⟩
  · cases ran.1
  · cases ran.1
  · rw [bind_of_ok run, bind_of_ok run']
    obtain ⟨⟨alike⟩, later⟩ := ran
    exact rest answer other alike between between' later

theorem andThen {same' : γ → δ → Prop} {rest : Effect γ} {rest' : Effect δ}
    (h : Mirrors same first second) (h' : Mirrors same' rest rest') :
    Mirrors same' (first >>= fun _ => rest) (second >>= fun _ => rest') :=
  h.bind fun _ _ _ => h'

theorem ite {c c' : Prop} [Decidable c] [Decidable c'] (iff : c ↔ c') {more : Effect α}
    {more' : Effect β} (h : Mirrors same first second) (h' : Mirrors same more more') :
    Mirrors same (if c then first else more) (if c' then second else more') := by
  by_cases holds : c
  · rwa [if_pos holds, if_pos (iff.mp holds)]
  · rwa [if_neg holds, if_neg (mt iff.mpr holds)]

theorem discard (h : Mirrors same first second) :
    Mirrors Eq (Functor.discard first) (Functor.discard second) :=
  h.andThen (.pure rfl)

theorem ensuring (h : Mirrors same first second) {f g : Workspace → Workspace}
    (keeps : ∀ w w' : Workspace, w.Mirrors w' → (f w).Mirrors (g w')) :
    Mirrors same (first.ensuring f) (second.ensuring g) := by
  intro w w' mirrors
  obtain ⟨answers, later⟩ := h w w' mirrors
  exact ⟨answers, keeps _ _ later⟩

theorem orFault_self (fault : Fault) (value : Option α) :
    Mirrors Eq (Effect.orFault fault value) (Effect.orFault fault value) := by
  cases value with
  | some answer => exact .pure rfl
  | none => exact .fail fault

theorem orFault (fault : Fault) {value : Option α} {other : Option β}
    (rel : Option.Rel same value other) :
    Mirrors same (Effect.orFault fault value) (Effect.orFault fault other) := by
  cases rel with
  | some alike => exact .pure alike
  | none => exact .fail fault

end Mirrors

end Effect

end Formwork
