import Formwork.Proofs.Workspace.Mirroring

/-! # Telling side by side

What a store does when values change, and what a tracker does that hears of it, comes to the same in
workspaces that mirror each other, as long as whoever is called does the same in both.
-/

namespace Formwork

open Effect

/-! ## Stores -/

namespace Store

variable {store other : Store} {names others : List String}

theorem Mirrors.record (mirrors : store.Mirrors other) (same : Names.Same names others) :
    Names.Same (store.record names).1 (other.record others).1 ∧
      (store.record names).2.Mirrors (other.record others).2 := by
  unfold Store.record
  rw [mirrors.batchDepth]
  split
  · exact ⟨same.distinct, mirrors⟩
  · exact ⟨fun _ => Iff.rfl, { mirrors with
      batchDepth := rfl, pending := (mirrors.pending.append same).distinct }⟩

theorem Mirrors.closeBatch (mirrors : store.Mirrors other) :
    Names.Same store.closeBatch.1 other.closeBatch.1 ∧
      store.closeBatch.2.Mirrors other.closeBatch.2 := by
  unfold Store.closeBatch
  rw [mirrors.batchDepth]
  split
  · exact ⟨mirrors.pending, { mirrors with batchDepth := rfl, pending := fun _ => Iff.rfl }⟩
  · exact ⟨fun _ => Iff.rfl, { mirrors with batchDepth := rfl }⟩

theorem Mirrors.changes (mirrors : store.Mirrors other) (values : Entries Value) :
    store.changes values = other.changes values := by
  unfold Store.changes Store.isChange
  rw [mirrors.values]

theorem Mirrors.present (mirrors : store.Mirrors other) (names : List String) :
    store.present names = other.present names := by
  unfold Store.present
  rw [mirrors.values]

theorem Mirrors.write (mirrors : store.Mirrors other) (values : Entries Value) :
    (store.write values).Mirrors (other.write values) :=
  { mirrors with values := congrArg (·.putAll values) mirrors.values }

theorem Mirrors.remove (mirrors : store.Mirrors other) (same : Names.Same names others) :
    (store.remove names).Mirrors (other.remove others) := by
  refine { mirrors with values := ?_ }
  show store.values.dropAll names = other.values.dropAll others
  rw [mirrors.values, Entries.dropAll_congr same]

theorem Mirrors.openBatch (mirrors : store.Mirrors other) :
    store.openBatch.Mirrors other.openBatch :=
  { mirrors with batchDepth := congrArg (· + 1) mirrors.batchDepth }

theorem Mirrors.subscribe (mirrors : store.Mirrors other) (listener : Listener) :
    (store.subscribe listener).Mirrors (other.subscribe listener) :=
  { mirrors with listeners := congrArg (· ++ [listener]) mirrors.listeners }

theorem Mirrors.unsubscribe (mirrors : store.Mirrors other) (listener : Listener) :
    (store.unsubscribe listener).Mirrors (other.unsubscribe listener) :=
  { mirrors with listeners := congrArg (·.erase listener) mirrors.listeners }

end Store

/-- Whoever is called does the same in both workspaces. -/
structure Hooks.Mirror (hooks : Hooks) : Prop where
  changed : ∀ listener (names others : List String) values, Names.Same names others →
    Effect.Mirrors Eq (hooks.changed listener names values) (hooks.changed listener others values)
  shown : ∀ listener (map other : Visibility), (∀ name, map.get? name = other.get? name) →
    Effect.Mirrors Eq (hooks.shown listener map) (hooks.shown listener other)

namespace Workspace

variable {hooks : Hooks} {names others : List String}

/-! ## Changing values -/

theorem callListeners_mirrors (mirror : hooks.Mirror) (store : Nat)
    (same : Names.Same names others) (listeners : List Listener) :
    Effect.Mirrors Eq (callListeners hooks store names listeners)
      (callListeners hooks store others listeners) := by
  induction listeners with
  | nil => exact .pure rfl
  | cons listener rest ih =>
      refine .bind .read fun w w' mirrors => ?_
      rw [(mirrors.stores store).values]
      exact .andThen (mirror.changed listener names others _ same) ih

theorem notify_mirrors (mirror : hooks.Mirror) (store : Nat) (same : Names.Same names others) :
    Effect.Mirrors Eq (notify hooks store names) (notify hooks store others) := by
  unfold notify
  rw [same.isEmpty]
  refine .ite Iff.rfl ?_ (.pure rfl)
  refine .bind .read fun w w' mirrors => ?_
  rw [(mirrors.stores store).listeners]
  exact callListeners_mirrors mirror store same _

theorem record_mirrors (mirror : hooks.Mirror) (store : Nat) (same : Names.Same names others) :
    Effect.Mirrors Eq (record hooks store names) (record hooks store others) := by
  refine .bind .read fun w w' mirrors => ?_
  obtain ⟨now, after⟩ := (mirrors.stores store).record same
  exact .andThen (.change fun _ _ mirrors => mirrors.updateStore store after)
    (notify_mirrors mirror store now)

theorem setValues_mirrors (mirror : hooks.Mirror) (store : Nat) (values : Entries Value) :
    Effect.Mirrors Eq (setValues hooks store values) (setValues hooks store values) := by
  refine .bind .read fun w w' mirrors => ?_
  rw [(mirrors.stores store).changes]
  refine .andThen (.change fun _ _ mirrors => ?_) (record_mirrors mirror store fun _ => Iff.rfl)
  exact mirrors.updateStore store ((mirrors.stores store).write values)

theorem clear_mirrors (mirror : hooks.Mirror) (store : Nat) (names : List String)
    (telling : Bool) :
    Effect.Mirrors Eq (clear hooks store names telling) (clear hooks store names telling) := by
  refine .bind .read fun w w' mirrors => ?_
  rw [(mirrors.stores store).present]
  dsimp only
  refine .andThen (.change fun _ _ mirrors => ?_) ?_
  · exact mirrors.updateStore store ((mirrors.stores store).remove fun _ => Iff.rfl)
  · have told (removed : List String) :
        Effect.Mirrors Eq (do record hooks store removed; pure removed)
          (do record hooks store removed; pure removed) :=
      .andThen (record_mirrors mirror store fun _ => Iff.rfl) (.pure rfl)
    have rest (removed : List String) :=
      (told removed).ite (Iff.refl telling) (.pure (Eq.refl removed))
    refine .ite Iff.rfl (.andThen (.change fun _ _ mirrors => ?_) (rest _)) (rest _)
    exact mirrors.addNotices rfl

theorem closeBatch_mirrors (mirror : hooks.Mirror) (store : Nat) :
    Effect.Mirrors Eq (closeBatch hooks store) (closeBatch hooks store) := by
  refine .bind .read fun w w' mirrors => ?_
  obtain ⟨now, after⟩ := (mirrors.stores store).closeBatch
  exact .andThen (.change fun _ _ mirrors => mirrors.updateStore store after)
    (notify_mirrors mirror store now)

/-! ## Keeping visibility -/

theorem callWatchers_mirrors (mirror : hooks.Mirror) {map other : Visibility}
    (same : ∀ name, map.get? name = other.get? name) (listeners : List String) :
    Effect.Mirrors Eq (callWatchers hooks map listeners) (callWatchers hooks other listeners) := by
  induction listeners with
  | nil => exact .pure rfl
  | cons listener rest ih => exact .andThen (mirror.shown listener map other same) ih

/-- Answers of cycles: maps that are one mapping, and the fields that these show otherwise. -/
def SameAnswer (answer other : Visibility × List String) : Prop :=
  (∀ name, answer.1.get? name = other.1.get? name) ∧ Names.Same answer.2 other.2

theorem Mirrors.announcing {w w' : Workspace} (mirrors : w.Mirrors w') (id : Nat)
    (isAnnouncing : Bool) :
    (w.updateTracker id fun tracker => { tracker with isAnnouncing }).Mirrors
      (w'.updateTracker id fun tracker => { tracker with isAnnouncing }) :=
  mirrors.updateTracker id { mirrors.trackers id with isAnnouncing := rfl }

theorem runCycle_mirrors (mirror : hooks.Mirror) (id : Nat) (same : Names.Same names others) :
    Effect.Mirrors SameAnswer (runCycle hooks id names) (runCycle hooks id others) := by
  refine .bind .read fun w w' mirrors => .bind .read fun now now' current => ?_
  have tracker := mirrors.trackers id
  rw [tracker.store, (current.stores _).values]
  have cycles := tracker.cycle same (now'.storeAt (w'.trackerAt id).store).values
  have answer := And.intro cycles.map.get?
    (Names.Same.of_perm (Visibility.flipped_perm cycles.map.perm tracker.map.get?))
  generalize (w.trackerAt id).cycle names _ = cycle at cycles answer ⊢
  generalize (w'.trackerAt id).cycle others _ = other at cycles answer ⊢
  dsimp only
  refine .andThen (.change fun _ _ mirrors => ?_) ?_
  · exact mirrors.updateStore _ ((mirrors.stores _).remove cycles.cleared)
  refine .andThen (.change fun _ _ mirrors => mirrors.addNotices cycles.removals) ?_
  refine .andThen (.change fun _ _ mirrors => ?_) ?_
  · exact mirrors.updateTracker id { mirrors.trackers id with map := cycles.map }
  rw [cycles.cleared.isEmpty]
  refine .ite Iff.rfl ?_ (.pure answer)
  refine .andThen (.change fun _ _ mirrors => mirrors.announcing id true) ?_
  have told := record_mirrors mirror (w'.trackerAt id).store cycles.cleared
  exact .andThen (told.ensuring fun _ _ mirrors => mirrors.announcing id false) (.pure answer)

theorem react_mirrors (mirror : hooks.Mirror) (id : Nat) (same : Names.Same names others) :
    Effect.Mirrors Eq (react hooks id names) (react hooks id others) := by
  refine .bind .read fun w w' mirrors => ?_
  have affected := (mirrors.trackers id).reactsTo same
  dsimp only
  rw [affected.isEmpty]
  refine .ite Iff.rfl (.bind (runCycle_mirrors mirror id affected) ?_) (.pure rfl)
  rintro ⟨map, flipped⟩ ⟨map', flipped'⟩ ⟨maps, shown⟩
  dsimp only
  rw [shown.isEmpty]
  refine .ite Iff.rfl ?_ (.pure rfl)
  refine .andThen (.change fun _ _ mirrors => mirrors.addNotices rfl) ?_
  refine .bind .read fun now now' current => ?_
  rw [(current.trackers id).listeners]
  exact callWatchers_mirrors mirror maps _

theorem createTracker_mirrors (mirror : hooks.Mirror) (store : Nat) {fields others : List Field}
    (same : Field.SameByName fields others) :
    Effect.Mirrors Eq (createTracker hooks store fields) (createTracker hooks store others) := by
  refine .bind .read fun w w' mirrors => ?_
  have tracker := Tracker.ofFields_mirrors same store
  rw [mirrors.fresh]
  refine .andThen (.change fun _ _ mirrors => mirrors.updateTracker _ tracker) ?_
  have conditional : Names.Same (Tracker.ofFields store fields).conditions.names
      (Tracker.ofFields store others).conditions.names :=
    .of_perm (tracker.conditions.perm.map _)
  exact .andThen (runCycle_mirrors mirror _ conditional).discard (.pure rfl)

theorem startTracker_mirrors (id : Nat) :
    Effect.Mirrors Eq (startTracker id) (startTracker id) := by
  refine .bind .read fun w w' mirrors => ?_
  have tracker := mirrors.trackers id
  dsimp only
  rw [tracker.isActive, tracker.store]
  refine .ite Iff.rfl (.andThen (.change fun _ _ mirrors => ?_) ?_) (.pure rfl)
  · exact mirrors.updateStore _ ((mirrors.stores _).subscribe _)
  · exact .change fun _ _ mirrors =>
      mirrors.updateTracker id { mirrors.trackers id with isActive := rfl }

theorem stopTracker_mirrors (id : Nat) :
    Effect.Mirrors Eq (stopTracker id) (stopTracker id) := by
  refine .bind .read fun w w' mirrors => ?_
  have tracker := mirrors.trackers id
  dsimp only
  rw [tracker.isActive, tracker.store]
  refine .ite Iff.rfl (.andThen (.change fun _ _ mirrors => ?_) ?_) (.pure rfl)
  · exact mirrors.updateStore _ ((mirrors.stores _).unsubscribe _)
  · exact .change fun _ _ mirrors =>
      mirrors.updateTracker id { mirrors.trackers id with isActive := rfl }

end Workspace

end Formwork
