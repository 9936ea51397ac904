import Formwork.Proofs.Form.Edits
import Formwork.Proofs.Session.Current

/-! # Waiting for a validation

To submit a form is to validate its values and, if nothing was found wanting, to hand over
its payload. An asynchronous validator makes the host wait in between, and the host can write
values meanwhile. The outcome is that of the values that were validated; what is handed over
is what the form shows once the waiting is over.
-/

namespace Formwork

namespace Workspace

/-- The answer to a submission once its outcome is there. -/
def handOver (session : Session) (outcome : Outcome) :
    Effect (Outcome × Option (Entries Value)) := do
  if outcome.valid then return (outcome, some (payload (← get) session))
  modify (·.addNotices [.submitBlocked outcome.errorFields])
  return (outcome, none)

/-- Submit a session, and do something while its values are being validated. -/
def submitAround (meanwhile : Effect Unit) (session : Session) :
    Effect (Outcome × Option (Entries Value)) := do
  let outcome ← validate session
  meanwhile
  handOver session outcome

/-- Write values to the session in use, one after another. -/
def writeEach : List (Entries Value) → Effect Unit
  | [] => pure ()
  | values :: rest => do
      discard (act (.sessionSetMany values))
      writeEach rest

theorem submitAround_idle (session : Session) :
    submitAround (writeEach []) session = submit session := rfl

variable {w w' : Workspace} {session : Session} {id : Nat}

theorem handOver_notes (records : w.Records) (session : Session) (outcome : Outcome) :
    Effect.Yields (handOver session outcome w) fun answer after =>
      w.Notes after ∧ answer.1 = outcome ∧
        answer.2 = if outcome.valid then some (payload after session) else none := by
  unfold handOver
  split
  next valid => exact ⟨_, w, rfl, .refl records, rfl, rfl⟩
  next refused => exact ⟨_, _, rfl, records.addNotices _, rfl, rfl⟩

theorem writeEach_form (used : w.session = some id)
    (listens : w.Listens (w.sessionAt id).store (w.sessionAt id).tracker)
    (edits : List (Entries Value)) :
    Effect.Yields (writeEach edits w) fun _ after =>
      w.FormBecomes (w.sessionAt id).store (w.sessionAt id).tracker
        ((w.formOf (w.sessionAt id)).writeAll edits) after := by
  induction edits generalizing w with
  | nil => exact ⟨(), w, rfl, .refl listens.records⟩
  | cons values rest ih =>
      refine (sessionSetMany_form used listens values).discard.bind fun _ between written => ?_
      have same : between.sessionAt id = w.sessionAt id := written.sameButForm.sessionAt id
      have still := listens.becomes written (Form.write_steady _ values)
      have later := ih (written.sameButForm.session.trans used) (same ▸ still)
      rw [same, formOf, written.form] at later
      exact later.mono fun _ _ wrote => written.trans wrote

/-- What is handed over is what is shown after the edits, each value of which was validated or
    was written while the host waited for the outcome. Fields without a condition have all of
    that, and what is written to fields that no condition refers to has no effect on others. -/
theorem Filling.handed_over (filling : w.Filling)
    (used : w.session.map w.sessionAt = some session) (edits : List (Entries Value)) :
    Effect.Yields (submitAround (writeEach edits) session w) fun answer after =>
      answer.1 = (session.rules.validate (w.valuesOf session)
        (some (w.visibilityOf session))).outcome ∧
      answer.2 = (if answer.1.valid then some (payload after session) else none) ∧
      payload after session = ((w.formOf session).writeAll edits).payload ∧
      (edits = [] → payload after session = payload w session) ∧
      (∀ name value, (payload after session).get? name = some value →
        ((w.valuesOf session).putAll edits.flatten).get? name = some value) ∧
      (∀ name, (∀ field, session.shared.schema.field? name = some field →
          field.condition = none) →
        (payload after session).get? name =
          ((w.valuesOf session).putAll edits.flatten).get? name) ∧
      ((∀ name ∈ Entries.names edits.flatten, ¬session.shared.schema.Watches name) →
        ∀ name, name ∉ Entries.names edits.flatten →
          (payload after session).get? name = (payload w session).get? name) := by
  obtain ⟨id, attends⟩ := filling.attends
  rw [attends.used] at used
  cases used
  have serves := attends.serves
  have drawn := serves.sound.drawnFrom.writeAll edits
  have conditions := (Form.writeAll_steady (w.formOf (w.sessionAt id)) edits).conditions
  refine (validate_notes attends.listens.records (w.sessionAt id)).bind ?_
  rintro outcome between ⟨rfl, notes⟩
  -- the validation leaves the form as it is, so the edits meet the form that was validated
  have same : between.sessionAt id = w.sessionAt id := by
    rw [sessionAt, sessionAt, notes.sessions]
  have still := attends.notes notes
  have wrote := writeEach_form still.used still.listens edits
  rw [same, formOf, notes.formAt, ← formOf] at wrote
  refine wrote.bind fun _ waited became => ?_
  refine (handOver_notes became.sameButForm.records _ _).mono ?_
  rintro answer after ⟨noted, outcome, handed⟩
  have shown : payload after (w.sessionAt id) =
      ((w.formOf (w.sessionAt id)).writeAll edits).payload := by
    rw [noted.payload, ← became.form]
    rfl
  rw [outcome, shown]
  refine ⟨rfl, shown ▸ handed, rfl, ?_, ?_, ?_, ?_⟩
  · rintro rfl
    rfl
  · intro name value found
    exact drawn.of_payload found
  · intro name unconditional
    refine drawn.payload_free ?_
    rw [conditions]
    exact serves.free unconditional
  · intro unread name unwritten
    refine Form.payload_writeAll_unwatched ?_ unwritten
    exact fun other member watched => unread other member (serves.watches_iff.mp watched)

/-! ## A name that is taken back, for instance -/

/-- A form for the name of a pet, with a validator that says whether the name is free. -/
def nameForm : Schema where
  title := "Pet"
  body := .flat
    [{ name := "petName"
       rules :=
         { required := true, async := some { validator := "isFree", companions := [] } } },
     { name := "note" }]

def nameOpened : Workspace :=
  (act (.openSession "pet" "s" false [])
    { schemas := [("pet", nameForm)]
      options := { async := [("isFree", fun _ => .ofBool true)] } }).2

def nameGiven : Workspace := (act (.sessionSet "petName" (.str "Rex")) nameOpened).2

theorem nameGiven_filling : nameGiven.Filling := by
  have ran : act (.openSession "pet" "s" false [])
      { schemas := [("pet", nameForm)]
        options := { async := [("isFree", fun _ => .ofBool true)] } } =
      (.ok .done, nameOpened) := rfl
  have opened : nameOpened.Filling := .openedEmpty (.unscripted rfl rfl) rfl ran
  exact opened.did (.sessionSet ⟨trivial, rfl⟩)

/-- A note that is written in between is handed over beside the name that was validated. -/
theorem nameGiven_handed_over :
    nameGiven.Filling ∧
      nameGiven.session.map nameGiven.sessionAt = some (nameGiven.sessionAt 0) ∧
      Effect.Yields (submitAround (writeEach [[("note", .str "shy")]])
        (nameGiven.sessionAt 0) nameGiven) fun answer _ => ∃ data, answer.2 = some data ∧
          data.get? "petName" = some (.str "Rex") ∧ data.get? "note" = some (.str "shy") := by
  have filling := nameGiven_filling
  refine ⟨filling, rfl, (filling.handed_over rfl [[("note", .str "shy")]]).mono ?_⟩
  rintro answer after ⟨outcome, handed, -, -, -, free, -⟩
  have valid : answer.1.valid = true := by
    rw [outcome]
    rfl
  rw [if_pos valid] at handed
  have unconditional : ∀ name field,
      (nameGiven.sessionAt 0).shared.schema.field? name = some field →
        field.condition = none := by
    intro name field declared
    have listed : field ∈ nameForm.fields := Field.mem_of_last? declared
    simp only [nameForm, Schema.fields, List.mem_cons, List.not_mem_nil, or_false] at listed
    rcases listed with rfl | rfl <;> rfl
  exact ⟨_, handed, free "petName" (unconditional _), free "note" (unconditional _)⟩

/-- A name that is taken back in between is handed over although none was accepted. -/
theorem nameGiven_taken_back :
    nameGiven.Filling ∧
      nameGiven.session.map nameGiven.sessionAt = some (nameGiven.sessionAt 0) ∧
      payload nameGiven (nameGiven.sessionAt 0) = [("petName", .str "Rex")] ∧
      Effect.Yields (submitAround (writeEach [[("petName", .str "")]])
        (nameGiven.sessionAt 0) nameGiven) fun answer after =>
          answer.1.valid = true ∧ answer.2 = some [("petName", .str "")] ∧
          ((nameGiven.sessionAt 0).rules.validate [("petName", .str "")]
            (some (after.visibilityOf (nameGiven.sessionAt 0)))).outcome.errors =
              [("petName", ["This field is required"])] :=
  ⟨nameGiven_filling, rfl, rfl, _, _, rfl, rfl, rfl, rfl⟩

end Workspace

end Formwork
