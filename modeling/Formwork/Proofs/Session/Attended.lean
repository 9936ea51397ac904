import Formwork.Proofs.Form.Serving
import Formwork.Proofs.Workspace.Opening

/-! # Attended sessions

A session is attended while its tracker alone listens to its store and nothing but the session
opens batches of it. Whatever a host does with the values or the schema of an attended session
leaves it attended, and its form one of its schema.
-/

namespace Formwork.Workspace

variable {w w' : Workspace} {id : Nat}

def formOf (w : Workspace) (session : Session) : Form :=
  w.formAt session.store session.tracker

theorem FormBecomes.visibilityOf {session : Session} {form : Form}
    (h : w.FormBecomes session.store session.tracker form w') :
    w'.visibilityOf session = form.tracker.map := congrArg Tracker.map h.trackerAt

theorem FormBecomes.payload {session : Session} {form : Form}
    (h : w.FormBecomes session.store session.tracker form w') :
    payload w' session = form.payload := by
  rw [← h.form]
  rfl

/-- The session of a number is in use, its tracker alone listens to its store, and its form is
    one of its schema. -/
structure Attends (w : Workspace) (id : Nat) : Prop where
  used : w.session = some id
  current : w.store = (w.sessionAt id).store
  listens : w.Listens (w.sessionAt id).store (w.sessionAt id).tracker
  active : (w.trackerAt (w.sessionAt id).tracker).isActive = true
  batches : w.batches = List.replicate (w.storeAt (w.sessionAt id).store).batchDepth
    (w.sessionAt id).store
  compiled : Ruleset.compile (w.sessionAt id).options (w.sessionAt id).shared.schema =
    .ok (w.sessionAt id).rules
  serves : (w.formOf (w.sessionAt id)).Serves (w.sessionAt id).shared.schema

def withBatches (w : Workspace) (batches : List Nat) : Workspace := { w with batches }

theorem Listens.withBatches {s t : Nat} (h : w.Listens s t) (batches : List Nat) :
    (w.withBatches batches).Listens s t :=
  h.of_same rfl rfl ⟨h.records.scripts, h.records.watchScripts⟩

/-- An operation on the form of an attended session leaves it attended, as long as the batches
    that are open are those of its store. -/
theorem Attends.counted (attends : w.Attends id) {n : Nat} {form : Form}
    (h : (w.withBatches (List.replicate n (w.sessionAt id).store)).FormBecomes
      (w.sessionAt id).store (w.sessionAt id).tracker form w')
    (steady : ((w.formOf (w.sessionAt id)).counting n).Steady form) (sound : form.Sound) :
    w'.Attends id := by
  have same : w'.sessionAt id = w.sessionAt id := h.sameButForm.sessionAt id
  have listening : (w'.storeAt (w.sessionAt id).store).trackers =
      [(w.sessionAt id).tracker] := by
    rw [h.storeAt, steady.trackers]
    exact attends.listens.listening
  refine ⟨?_, ?_, ?_, ?_, ?_, ?_, ?_⟩
  · exact h.sameButForm.session.trans attends.used
  · rw [same]
    exact h.sameButForm.store.trans attends.current
  · rw [same]
    refine ⟨⟨h.sameButForm.records, ?_, ?_, by simp [listening]⟩, listening⟩ <;>
      rw [h.trackerAt, steady.tracker]
    · exact attends.listens.follows
    · exact attends.listens.quiet
  · rw [same, h.trackerAt, steady.tracker]
    exact attends.active
  · rw [same, h.storeAt, steady.batchDepth]
    exact h.sameButForm.batches
  · rw [same]
    exact attends.compiled
  · rw [same, formOf, h.form]
    exact attends.serves.later steady sound

theorem Attends.becomes (attends : w.Attends id) {form : Form}
    (h : w.FormBecomes (w.sessionAt id).store (w.sessionAt id).tracker form w')
    (steady : (w.formOf (w.sessionAt id)).Steady form) (sound : form.Sound) :
    w'.Attends id := by
  refine attends.counted (n := (w.storeAt (w.sessionAt id).store).batchDepth) ?_ steady sound
  rw [← attends.batches]
  exact h

theorem Attends.notes (attends : w.Attends id) (h : w.Notes w') : w'.Attends id :=
  attends.becomes (attends.listens.toAlone.same.notes h) (.refl _) attends.serves.sound

/-- Only what a session's form and its place in use are read from matters to whether it is
    attended. -/
theorem Attends.of_same (attends : w.Attends id) (stores : w'.stores = w.stores)
    (trackers : w'.trackers = w.trackers) (sessions : w'.sessions = w.sessions)
    (session : w'.session = w.session) (store : w'.store = w.store)
    (batches : w'.batches = w.batches) (records : w'.Records) : w'.Attends id := by
  have same : w'.sessionAt id = w.sessionAt id := by rw [sessionAt, sessionAt, sessions]
  have form (s t : Nat) : w'.formAt s t = w.formAt s t := by
    rw [formAt, formAt, storeAt, trackerAt, stores, trackers]
    rfl
  refine ⟨session.trans attends.used, ?_, ?_, ?_, ?_, ?_, ?_⟩ <;> rw [same]
  · exact store.trans attends.current
  · exact attends.listens.of_same stores trackers records
  · rw [trackerAt, trackers]
    exact attends.active
  · rw [batches, storeAt, stores]
    exact attends.batches
  · exact attends.compiled
  · rw [formOf, form]
    exact attends.serves

variable (depth : Nat)

/-! ## Values and batches -/

theorem setValues_attends (attends : w.Attends id) {values : Entries Value}
    (plain : ∀ entry ∈ values, entry.2.Plain) :
    Effect.Yields (setValues (callbacks (depth + 2)) (w.sessionAt id).store values w)
      fun _ after => after.Attends id :=
  (setValues_form depth attends.listens values).mono fun _ _ written =>
    attends.becomes written.toFormBecomes (Form.write_steady _ _) (attends.serves.sound.write plain)

theorem clear_attends (attends : w.Attends id) (names : List String) :
    Effect.Yields (clear (callbacks (depth + 2)) (w.sessionAt id).store names true w)
      fun _ after => after.Attends id :=
  (clear_form depth attends.listens names).mono fun _ _ cleared =>
    attends.becomes cleared (Form.clear_steady _ _) (attends.serves.sound.clear names)

theorem beginBatch_attends (attends : w.Attends id) :
    Effect.Yields (beginBatch w) fun _ after => after.Attends id := by
  have run : beginBatch w = (.ok (), (w.withBatches (List.replicate
      ((w.storeAt (w.sessionAt id).store).batchDepth + 1) (w.sessionAt id).store)).updateStore
        (w.sessionAt id).store (·.openBatch)) := by
    rw [List.replicate_succ, ← attends.batches, ← attends.current]
    rfl
  have opened := (attends.listens.withBatches (List.replicate
    ((w.storeAt (w.sessionAt id).store).batchDepth + 1)
      (w.sessionAt id).store)).toAlone.same.updateStore (·.openBatch)
  exact ⟨(), _, run, attends.counted opened ⟨rfl, List.Subset.refl _, rfl, rfl⟩
    attends.serves.sound.openBatch⟩

theorem endBatch_apply {s : Nat} {batches : List Nat} (opened : w.batches = s :: batches)
    (hooks : Hooks) : endBatch hooks w = closeBatch hooks s (w.withBatches batches) := by
  rw [endBatch, Effect.get_bind, opened]
  rfl

theorem endBatch_attends (attends : w.Attends id)
    (inside : (w.storeAt (w.sessionAt id).store).batchDepth ≠ 0) :
    Effect.Yields (endBatch (callbacks (depth + 2)) w) fun _ after => after.Attends id := by
  obtain ⟨n, counted⟩ := Nat.exists_eq_succ_of_ne_zero inside
  have batches := attends.batches
  rw [counted, List.replicate_succ] at batches
  rw [endBatch_apply batches]
  refine (closeBatch_form depth (attends.listens.withBatches _)).mono fun _ _ closed => ?_
  refine attends.counted closed.toFormBecomes ?_ attends.serves.sound.closeBatch
  have steady := (w.formOf (w.sessionAt id)).closeBatch_steady
  rwa [show (w.formOf (w.sessionAt id)).store.batchDepth = n + 1 from counted] at steady

end Formwork.Workspace
