import Formwork.Proofs.Ruleset.Required
import Formwork.Proofs.Session.Filling

/-! # What is submitted

A payload that is handed over answers the fields of the form: it is closed under the conditions,
evaluated on the payload itself, and complete for the required fields.
-/

namespace Formwork.Workspace

variable {w w' : Workspace} {id : Nat}

/-- The payload of values in which nothing was found wanting answers every declared field. -/
theorem Attends.payload_answered (attends : w.Attends id)
    (outside : (w.storeAt (w.sessionAt id).store).batchDepth = 0)
    (clean : ((w.sessionAt id).rules.validate (w.valuesOf (w.sessionAt id))
      (some (w.visibilityOf (w.sessionAt id)))).isClean = true)
    {name : String} {field : Field}
    (declared : (w.sessionAt id).shared.schema.field? name = some field) :
    field.IsAnswered (w.sessionAt id).options.fieldTypes (payload w (w.sessionAt id)) := by
  have serves := attends.serves
  have isName : field.name = name := Field.name_of_last? declared
  refine ⟨fun undue => ?_, fun required due => ?_⟩
  · rw [isName]
    exact serves.payload_closed outside declared undue
  · obtain ⟨shown, same⟩ := serves.payload_open outside declared due
    rw [← isName] at shown same
    exact (Ruleset.isFilled_of_isClean attends.compiled clean declared required shown).congr same

theorem submit_answered (attends : w.Attends id)
    (outside : (w.storeAt (w.sessionAt id).store).batchDepth = 0)
    {outcome : Outcome} {data : Entries Value}
    (h : submit (w.sessionAt id) w = (.ok (outcome, some data), w')) {name : String}
    {field : Field} (declared : (w.sessionAt id).shared.schema.field? name = some field) :
    field.IsAnswered (w.sessionAt id).options.fieldTypes data := by
  obtain ⟨-, handed⟩ := (submit_notes attends.listens.records (w.sessionAt id)).of_eq h
  obtain ⟨rfl, clean⟩ := handed data rfl
  exact attends.payload_answered outside clean declared

/-- A payload that a submission hands over is closed and complete, whatever was done since the
    form was opened. -/
theorem Filling.submission_answered {session : Session} {outcome : Outcome}
    {data : Entries Value} (filling : w.Filling)
    (used : w.session.map w.sessionAt = some session)
    (outside : (w.storeAt session.store).batchDepth = 0)
    (h : act .submit w = (.ok (.submission outcome (some data)), w')) {name : String}
    {field : Field} (declared : session.shared.schema.field? name = some field) :
    field.IsAnswered session.options.fieldTypes data := by
  obtain ⟨id, attends⟩ := filling.attends
  rw [attends.used] at used
  cases used
  rw [act, Effect.get_bind, perform,
    Effect.bind_of_ok (currentSession_apply attends.used)] at h
  obtain ⟨⟨found, handed⟩, after, ran, h⟩ := Effect.ok_of_bind h
  cases h
  exact submit_answered attends outside ran declared

theorem petNamed_submission_answered :
    petNamed.Filling ∧ petNamed.session.map petNamed.sessionAt = some (petNamed.sessionAt 0) ∧
      act .submit petNamed = (.ok (.submission ⟨true, []⟩
        (some [("petName", .str "Rex"), ("pet", .str "yes")])), (act .submit petNamed).2) ∧
      petName.IsAnswered [] [("petName", .str "Rex"), ("pet", .str "yes")] := by
  have filling := petNamed_filling
  have ran : act .submit petNamed = (.ok (.submission ⟨true, []⟩
      (some [("petName", .str "Rex"), ("pet", .str "yes")])), (act .submit petNamed).2) := rfl
  have declared : (petNamed.sessionAt 0).shared.schema.field? "petName" = some petName := rfl
  exact ⟨filling, rfl, ran, filling.submission_answered rfl rfl ran declared⟩

end Formwork.Workspace
