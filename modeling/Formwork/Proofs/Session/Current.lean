import Formwork.Proofs.Session.Filling

/-! # Visibility is current

After everything a host does to a form outside of batches, and at the end of every outermost
batch, the map of the session shows exactly the declared fields that the current values ask for.
Hidden fields to which a condition refers have no value, so conditions answer on the payload as
they do on all values.
-/

namespace Formwork.Workspace

variable {w : Workspace} {session : Session}

theorem Filling.serves (filling : w.Filling)
    (used : w.session.map w.sessionAt = some session) :
    (w.formOf session).Serves session.shared.schema := by
  obtain ⟨id, attends⟩ := filling.attends
  rw [attends.used] at used
  cases used
  exact attends.serves

/-- What is shown is current, whatever was done since the form was opened. -/
theorem Filling.visibility_current (filling : w.Filling)
    (used : w.session.map w.sessionAt = some session)
    (outside : (w.storeAt session.store).batchDepth = 0) :
    (∀ name field, session.shared.schema.field? name = some field →
      (w.visibilityOf session).get? name = some (field.isDue (w.valuesOf session))) ∧
    (∀ name, (w.visibilityOf session).get? name = some false →
      session.shared.schema.Watches name → (w.valuesOf session).get? name = none) ∧
    (∀ name field c, session.shared.schema.field? name = some field →
      field.condition = some c →
      c.holds (payload w session) = c.holds (w.valuesOf session)) := by
  have serves := filling.serves used
  refine ⟨?_, ?_, ?_⟩
  · intro name field declared
    exact serves.shows outside declared
  · intro name hidden watched
    exact serves.absent outside hidden watched
  · intro name field c declared has
    exact serves.holds_payload outside declared has

theorem petNamed_visibility_current :
    petNamed.Filling ∧ petNamed.session.map petNamed.sessionAt = some (petNamed.sessionAt 0) ∧
      (petNamed.storeAt (petNamed.sessionAt 0).store).batchDepth = 0 ∧
      (petNamed.visibilityOf (petNamed.sessionAt 0)).get? "petName" = some true := by
  have named := petNamed_filling
  exact ⟨named, rfl, rfl, (named.visibility_current rfl rfl).1 "petName" _ rfl⟩

end Formwork.Workspace
