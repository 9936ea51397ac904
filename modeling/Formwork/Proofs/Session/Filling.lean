import Formwork.Proofs.Session.Opening

/-! # Forms being filled in

A form is being filled in from the time its session opens, as long as a host writes plain values,
removes values, opens and closes batches, changes to schemas that compile, validates, and lets
functions listen that merely record. The session stays attended all along.
-/

namespace Formwork

/-- What a host does while a form is being filled in. -/
inductive Action.Fills : Action → Prop where
  | set {name : String} {value : Value} (plain : value.Plain) : Fills (.set name value)
  | setMany {values : Entries Value} (plain : ∀ entry ∈ values, entry.2.Plain) :
      Fills (.setMany values)
  | sessionSet {name : String} {value : Value} (plain : value.Plain) :
      Fills (.sessionSet name value)
  | sessionSetMany {values : Entries Value} (plain : ∀ entry ∈ values, entry.2.Plain) :
      Fills (.sessionSetMany values)
  | clear (names : List String) : Fills (.clear names true)
  | openBatch : Fills .openBatch
  | closeBatch (failing : Bool) : Fills (.closeBatch failing)
  | subscribe (subscription listener : String) {actions : List Action} {calls : Nat}
      (idle : Script.Idle { actions, calls }) :
      Fills (.subscribe subscription listener actions calls)
  | sessionWatch (listener : String) {actions : List Action} {calls : Nat}
      (idle : Script.Idle { actions, calls }) : Fills (.sessionWatch listener actions calls)
  | validateLocal : Fills .validateLocal
  | validate : Fills .validate
  | submit : Fills .submit

namespace Workspace

/-- The workspaces in which a form is being filled in. -/
inductive Filling : Workspace → Prop where
  | opened {w w' : Workspace} {key name : String} {initial : Entries Value} {result : Result}
      (records : w.Records) (batches : w.batches = [])
      (plain : ∀ entry ∈ initial, entry.2.Plain)
      (ran : act (.openSession key name false initial) w = (.ok result, w')) : Filling w'
  | joined {w w' : Workspace} {key name : String} {initial : Entries Value} {result : Result}
      (ready : w.Ready w.store) (plain : ∀ entry ∈ initial, entry.2.Plain)
      (ran : act (.openSession key name true initial) w = (.ok result, w')) : Filling w'
  | did {w : Workspace} {action : Action} (filling : Filling w) (fills : action.Fills) :
      Filling (act action w).2
  | changed {w w' : Workspace} {key : String} {copied : Bool} {result : Result}
      (filling : Filling w) (ran : act (.setSchema key copied) w = (.ok result, w')) : Filling w'

variable {w w' : Workspace} {id : Nat}

theorem Filling.openedEmpty {key name : String} {result : Result} (records : w.Records)
    (batches : w.batches = [])
    (ran : act (.openSession key name false []) w = (.ok result, w')) : w'.Filling :=
  .opened records batches (fun _ none => absurd none List.not_mem_nil) ran

/-! ## What the session in use does -/

theorem sharedSchema_ok {key : String} {shared : SharedSchema}
    (h : sharedSchema key w = (.ok shared, w')) :
    w.schemas.get? key = some shared.schema ∧ w = w' := by
  rw [sharedSchema, Effect.get_bind] at h
  cases found : w.schemas.get? key with
  | none =>
      rw [found] at h
      cases h
  | some schema =>
      rw [found] at h
      cases h
      exact ⟨rfl, rfl⟩

theorem sessionInUse_apply (used : w.session = some id) : sessionInUse w = (.ok id, w) := by
  rw [sessionInUse, Effect.get_bind, used]
  rfl

theorem currentSession_apply (used : w.session = some id) :
    currentSession w = (.ok (w.sessionAt id), w) := by
  rw [currentSession, Effect.get_bind, Effect.bind_of_ok (sessionInUse_apply used)]
  rfl

theorem sessionSetMany_form (used : w.session = some id)
    (listens : w.Listens (w.sessionAt id).store (w.sessionAt id).tracker)
    (values : Entries Value) :
    Effect.Yields (act (.sessionSetMany values) w) fun _ after =>
      w.FormBecomes (w.sessionAt id).store (w.sessionAt id).tracker
        ((w.formOf (w.sessionAt id)).write values) after := by
  rw [act, Effect.get_bind, perform, Effect.bind_of_ok (currentSession_apply used)]
  refine (setValues_form (w.trackers.length + 998) listens values).bind ?_
  exact fun _ _ written => .pure written.toFormBecomes

theorem conclude_notes (records : w.Records) (found : Findings) :
    Effect.Yields (conclude found w) fun outcome after =>
      outcome = found.outcome ∧ w.Notes after :=
  ⟨found.outcome, _, rfl, rfl, rfl, rfl, rfl,
    ⟨found.calls.map .called, rfl, fun data member => by simp at member⟩,
    ⟨records.scripts, records.watchScripts⟩⟩

theorem validate_notes (records : w.Records) (session : Session) :
    Effect.Yields (validate session w) fun outcome after =>
      outcome = (session.rules.validate (w.valuesOf session)
        (some (w.visibilityOf session))).outcome ∧ w.Notes after :=
  conclude_notes records _

theorem Notes.payload (h : w.Notes w') (session : Session) :
    payload w' session = payload w session := by
  simp only [Workspace.payload, valuesOf, visibilityOf, h.storeAt, h.trackerAt]

/-- Submitting leaves notes. What it hands over are the values that are shown, and it does so
    only where nothing was found wanting. -/
theorem submit_notes (records : w.Records) (session : Session) :
    Effect.Yields (submit session w) fun answer after => w.Notes after ∧
      ∀ data, answer.2 = some data → data = payload w session ∧
        (session.rules.validate (w.valuesOf session)
          (some (w.visibilityOf session))).isClean = true := by
  unfold submit
  refine (validate_notes records session).bind ?_
  rintro outcome after ⟨rfl, notes⟩
  split
  next valid =>
    refine ⟨_, after, rfl, notes, ?_⟩
    intro data same
    cases same
    exact ⟨notes.payload session, valid⟩
  next =>
    refine ⟨_, _, rfl, notes.trans (notes.records.addNotices _), ?_⟩
    intro data none
    cases none

/-! ## Listening -/

theorem withScript_idle {scripts : Entries Script}
    (idle : ∀ name script, scripts.get? name = some script → script.Idle) (listener : String)
    {actions : List Action} {calls : Nat} (new : Script.Idle { actions, calls }) :
    ∀ name script, (withScript scripts listener actions calls).get? name = some script →
      script.Idle := by
  unfold withScript
  split
  · exact idle
  · exact Entries.forall_get?_put idle new

theorem subscribe_attends (attends : w.Attends id) (subscription listener : String)
    {actions : List Action} {calls : Nat} (idle : Script.Idle { actions, calls }) :
    Effect.Yields (subscribe subscription listener actions calls w)
      fun _ after => after.Attends id := by
  have added := attends.listens.toAlone.same.updateStore (·.subscribe (.host listener))
  have steady : (w.formOf (w.sessionAt id)).Steady { w.formOf (w.sessionAt id) with
      store := (w.storeAt (w.sessionAt id).store).subscribe (.host listener) } :=
    .store _ _ (Store.trackers_subscribe_host _ _) rfl
  have still := attends.becomes added steady
    (attends.serves.sound.of_same rfl rfl rfl rfl rfl rfl)
  rw [← attends.current] at still
  exact ⟨(), _, rfl, still.of_same rfl rfl rfl rfl rfl rfl
    ⟨withScript_idle still.listens.records.scripts listener idle,
      still.listens.records.watchScripts⟩⟩

theorem watch_attends (attends : w.Attends id) (listener : String)
    {actions : List Action} {calls : Nat} (idle : Script.Idle { actions, calls }) :
    Effect.Yields (watch (w.sessionAt id).tracker listener actions calls w)
      fun _ after => after.Attends id := by
  have added := attends.listens.toAlone.same.updateTracker (·.watch listener)
  have still := attends.becomes added ⟨rfl, List.Subset.refl _, rfl, rfl⟩
    (attends.serves.sound.of_same rfl rfl rfl rfl rfl rfl)
  exact ⟨(), _, rfl, still.of_same rfl rfl rfl rfl rfl rfl
    ⟨still.listens.records.scripts,
      withScript_idle still.listens.records.watchScripts listener idle⟩⟩

/-! ## One action, and all -/

theorem endBatch_outside {hooks : Hooks} (attends : w.Attends id)
    (outside : (w.storeAt (w.sessionAt id).store).batchDepth = 0) : (endBatch hooks w).2 = w := by
  have none := attends.batches
  rw [outside, List.replicate_zero] at none
  rw [endBatch, Effect.get_bind, none]
  rfl

theorem perform_attends (depth : Nat) (attends : w.Attends id) {action : Action}
    (fills : action.Fills) : (perform (callbacks (depth + 2)) action w).2.Attends id := by
  have session := currentSession_apply attends.used
  have records := attends.listens.records
  cases fills with
  | set plain =>
      rw [perform, Effect.get_bind, attends.current, Effect.snd_bind_pure]
      exact (setValues_attends depth attends (by simpa using plain)).snd
  | setMany plain =>
      rw [perform, Effect.get_bind, attends.current, Effect.snd_bind_pure]
      exact (setValues_attends depth attends plain).snd
  | sessionSet plain =>
      rw [perform, Effect.bind_of_ok session, Effect.snd_bind_pure]
      exact (setValues_attends depth attends (by simpa using plain)).snd
  | sessionSetMany plain =>
      rw [perform, Effect.bind_of_ok session, Effect.snd_bind_pure]
      exact (setValues_attends depth attends plain).snd
  | clear names =>
      rw [perform, Effect.get_bind, attends.current, Effect.snd_bind_pure]
      exact (clear_attends depth attends names).snd
  | openBatch =>
      rw [perform, Effect.snd_bind_pure]
      exact (beginBatch_attends attends).snd
  | closeBatch failing =>
      rw [perform, Effect.snd_bind_pure]
      by_cases outside : (w.storeAt (w.sessionAt id).store).batchDepth = 0
      · rw [endBatch_outside attends outside]
        exact attends
      · exact (endBatch_attends depth attends outside).snd
  | subscribe subscription listener idle =>
      rw [perform, Effect.snd_bind_pure]
      exact (subscribe_attends attends subscription listener idle).snd
  | sessionWatch listener idle =>
      rw [perform, Effect.bind_of_ok session, Effect.snd_bind_pure]
      exact (watch_attends attends listener idle).snd
  | validateLocal =>
      rw [perform, Effect.bind_of_ok session, Effect.snd_bind_pure]
      exact ((conclude_notes records _).mono fun _ _ noted => attends.notes noted.2).snd
  | validate =>
      rw [perform, Effect.bind_of_ok session, Effect.snd_bind_pure]
      exact ((validate_notes records _).mono fun _ _ noted => attends.notes noted.2).snd
  | submit =>
      obtain ⟨⟨outcome, handed⟩, after, ran, notes, -⟩ := submit_notes records (w.sessionAt id)
      rw [perform, Effect.bind_of_ok session, Effect.bind_of_ok ran]
      exact attends.notes notes

theorem act_attends (attends : w.Attends id) {action : Action} (fills : action.Fills) :
    (act action w).2.Attends id :=
  perform_attends (w.trackers.length + 998) attends fills

theorem act_setSchema_attends (attends : w.Attends id) {key : String} {copied : Bool}
    {result : Result} (h : act (.setSchema key copied) w = (.ok result, w')) :
    w'.Attends id := by
  rw [act, Effect.get_bind, perform] at h
  obtain ⟨shared, _, looked, h⟩ := Effect.ok_of_bind h
  obtain ⟨-, rfl⟩ := sharedSchema_ok looked
  dsimp only at h
  rw [Effect.bind_of_ok (sessionInUse_apply attends.used)] at h
  obtain ⟨_, after, ran, h⟩ := Effect.ok_of_bind h
  cases h
  exact setSchema_attends (w.trackers.length + 998) attends ran

theorem openSession_attends {key name : String} {initial : Entries Value} {result : Result}
    (records : w.Records) (batches : w.batches = []) (plain : ∀ entry ∈ initial, entry.2.Plain)
    (h : act (.openSession key name false initial) w = (.ok result, w')) :
    ∃ id, w'.Attends id := by
  rw [act, Effect.get_bind, perform] at h
  obtain ⟨shared, _, looked, h⟩ := Effect.ok_of_bind h
  obtain ⟨-, rfl⟩ := sharedSchema_ok looked
  rw [Effect.get_bind] at h
  obtain ⟨session, after, ran, h⟩ := Effect.ok_of_bind h
  cases h
  have ready : (w.prepare initial).Ready w.stores.fresh :=
    .prepare records batches fun name value found => plain _ (Entries.mem_of_get? found)
  exact ⟨_, (openSession_ok _ ready ran).adopt ready name⟩

theorem joinSession_attends {key name : String} {initial : Entries Value} {result : Result}
    (ready : w.Ready w.store) (plain : ∀ entry ∈ initial, entry.2.Plain)
    (h : act (.openSession key name true initial) w = (.ok result, w')) :
    ∃ id, w'.Attends id := by
  rw [act, Effect.get_bind, perform] at h
  obtain ⟨shared, _, looked, h⟩ := Effect.ok_of_bind h
  obtain ⟨-, rfl⟩ := sharedSchema_ok looked
  rw [Effect.get_bind] at h
  obtain ⟨session, after, ran, h⟩ := Effect.ok_of_bind h
  cases h
  obtain ⟨between, still, opened⟩ := joinSession_ok _ ready plain ran
  exact ⟨_, opened.adopt still name⟩

theorem Filling.attends (filling : w.Filling) : ∃ id, w.Attends id := by
  induction filling with
  | opened records batches plain ran => exact openSession_attends records batches plain ran
  | joined ready plain ran => exact joinSession_attends ready plain ran
  | did _ fills ih =>
      obtain ⟨id, attends⟩ := ih
      exact ⟨id, act_attends attends fills⟩
  | changed _ ran ih =>
      obtain ⟨id, attends⟩ := ih
      exact ⟨id, act_setSchema_attends attends ran⟩

/-! ## A form, for instance -/

/-- The name of a pet, asked for where there is one. -/
def petName : Field where
  name := "petName"
  rules := { required := true }
  condition := some
    { field := some "pet", operator := none, value := .str "yes", equals := none
      conditions := none, combinator := none }

def petForm : Schema where
  title := "Pet"
  body := .flat [{ name := "pet" }, petName]

def petOpened : Workspace :=
  (act (.openSession "pet" "s" false []) { schemas := [("pet", petForm)] }).2

def petNamed : Workspace :=
  (act (.setMany [("petName", .str "Rex"), ("pet", .str "yes")]) petOpened).2

theorem petNamed_filling : petNamed.Filling := by
  have ran : act (.openSession "pet" "s" false []) { schemas := [("pet", petForm)] } =
      (.ok .done, petOpened) := rfl
  have opened : petOpened.Filling := .openedEmpty (.unscripted rfl rfl) rfl ran
  refine opened.did (.setMany ?_)
  intro entry member
  simp only [List.mem_cons, List.not_mem_nil, or_false] at member
  rcases member with rfl | rfl <;> exact ⟨trivial, rfl⟩

end Workspace

end Formwork
