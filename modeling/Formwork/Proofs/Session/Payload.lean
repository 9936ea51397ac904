import Formwork.Proofs.Ruleset.Reading
import Formwork.Proofs.Session.Current

/-! # What an outcome says of the payload

A validation looks at all values of a session, the payload leaves out those of hidden fields. A
hidden field can have a value: one that was written while the field was hidden and no condition
refers to it. The payload alone has the same outcome unless such a value selects the options of a
field that is shown, or goes to the validator of one as a companion, or a check of the host's own
looks at it.
-/

namespace Formwork

namespace Workspace

variable {w : Workspace} {session : Session}

theorem value_payload (w : Workspace) (session : Session) (name : String) :
    (payload w session).value name =
      if isShown (some (w.visibilityOf session)) name then (w.valuesOf session).value name
      else .null := by
  have reads : (payload w session).get? name = _ :=
    Entries.get?_filter (w.valuesOf session) (isShown (some (w.visibilityOf session))) name
  rw [Entries.value, reads]
  split <;> rfl

/-- The payload alone is validated like all values, where no hidden field with a value is read on
    account of another field, and no check of the host's own tells the two apart. -/
theorem validate_payload
    (apart : ∀ name ∈ session.rules.readsAcross (w.valuesOf session)
        (some (w.visibilityOf session)),
      isShown (some (w.visibilityOf session)) name = false →
        (w.valuesOf session).value name = .null)
    (alike : ∀ compiled ∈ session.rules.fields,
      isShown (some (w.visibilityOf session)) compiled.name = true →
        compiled.ChecksAlike (payload w session) (w.valuesOf session)) :
    session.rules.validate (payload w session) (some (w.visibilityOf session)) =
      session.rules.validate (w.valuesOf session) (some (w.visibilityOf session)) := by
  refine Ruleset.validate_congr (fun name shown => ?_) (fun name reads => ?_) alike
  · rw [value_payload, if_pos shown]
  · rw [value_payload]
    cases shown : isShown (some (w.visibilityOf session)) name with
    | true => rfl
    | false => exact (apart name reads shown).symm

/-! ## Fields that are read, for instance -/

/-- A form about a pet, in which the kind of the pet selects the breeds, and a reason goes to the
    validator of a tag. -/
def breedForm : Schema where
  title := "Pet"
  body := .flat
    [{ name := "pet" },
     { name := "kind", condition := petName.condition },
     { name := "breed", type := "radio", dependsOn := some "kind"
       optionsMap := some [("dog", ["poodle"])] },
     { name := "chip", type := "chip" },
     { name := "tag"
       rules := { async := some { validator := "isReasoned", companions := ["reason"] } } },
     { name := "reason"
       condition := petName.condition.map fun c => { c with value := .str "no" } }]

/-- A type of the host's that has no chip without a value of another field. -/
def chipWith (other : String) : FieldType where
  name := "chip"
  shape := .own fun field _ _ values =>
    if (values.value other).isEmpty then [field.message ("Not without " ++ other)] else []

/-- A validator of the host's that wants a value of the companion. -/
def isReasoned : AsyncValidator := fun values => .ofBool !(values.getLastD .null).isEmpty

def breedHost (other : String) : Workspace :=
  { schemas := [("pet", breedForm)]
    options := { fieldTypes := [("chip", chipWith other)], async := [("isReasoned", isReasoned)] } }

def breedOpened (other : String) : Workspace :=
  (act (.openSession "pet" "s" false []) (breedHost other)).2

theorem breedOpened_filling (other : String) : (breedOpened other).Filling := by
  have ran : act (.openSession "pet" "s" false []) (breedHost other) =
      (.ok .done, breedOpened other) := Prod.ext rfl rfl
  exact .openedEmpty (.unscripted rfl rfl) rfl ran

/-- The form after a breed was chosen for a pet of a kind, whose chip goes with the pet. What is
    given as a reason is hidden, but nothing reads it. -/
def breedChosen : Workspace :=
  (act (.setMany [("reason", .str "none")]) (act (.setMany [("pet", .str "yes"),
    ("kind", .str "dog"), ("breed", .str "poodle"), ("chip", .int 7)]) (breedOpened "pet")).2).2

theorem breedChosen_validate_payload :
    (breedChosen.sessionAt 0).rules.readsAcross (breedChosen.valuesOf (breedChosen.sessionAt 0))
        (some (breedChosen.visibilityOf (breedChosen.sessionAt 0))) = ["kind"] ∧
      payload breedChosen (breedChosen.sessionAt 0) =
        [("pet", .str "yes"), ("kind", .str "dog"), ("breed", .str "poodle"), ("chip", .int 7)] ∧
      (breedChosen.valuesOf (breedChosen.sessionAt 0)).has "reason" = true ∧
      (breedChosen.sessionAt 0).rules.validate (payload breedChosen (breedChosen.sessionAt 0))
          (some (breedChosen.visibilityOf (breedChosen.sessionAt 0))) =
        (breedChosen.sessionAt 0).rules.validate (breedChosen.valuesOf (breedChosen.sessionAt 0))
          (some (breedChosen.visibilityOf (breedChosen.sessionAt 0))) := by
  have reads : (breedChosen.sessionAt 0).rules.readsAcross
      (breedChosen.valuesOf (breedChosen.sessionAt 0))
        (some (breedChosen.visibilityOf (breedChosen.sessionAt 0))) = ["kind"] := rfl
  have shapes : (breedChosen.sessionAt 0).rules.fields.map (·.type.shape) =
      [.text, .text, .choice, (chipWith "pet").shape, .text, .text] := rfl
  refine ⟨reads, rfl, rfl, validate_payload ?_ ?_⟩
  · intro name across hidden
    rw [reads, List.mem_singleton] at across
    subst across
    cases hidden
  · intro compiled member _ check isOwn _
    have listed := List.mem_map_of_mem (f := (·.type.shape)) member
    rw [shapes, isOwn] at listed
    simp only [List.mem_cons, reduceCtorEq, List.not_mem_nil, or_false, false_or] at listed
    cases listed
    rfl

/-- The form after a kind was written while it was hidden, and a breed of that kind. -/
def breedStray : Workspace :=
  (act (.setMany [("breed", .str "poodle"), ("kind", .str "dog")]) (breedOpened "pet")).2

/-- The form after a reason was written while it was hidden, and a chip that goes with a reason. -/
def chipStray : Workspace :=
  (act (.setMany [("chip", .int 7), ("reason", .str "none")]) (breedOpened "reason")).2

/-- The form after a reason was written while it was hidden, and a tag that goes with a reason. -/
def tagStray : Workspace :=
  (act (.setMany [("tag", .str "blue"), ("reason", .str "none")]) (breedOpened "pet")).2

/-- A form that is found valid, though its payload alone is not. -/
structure Strays (w : Workspace) (handed : Entries Value) (errors : Entries (List String)) :
    Prop where
  filling : w.Filling
  used : w.session.map w.sessionAt = some (w.sessionAt 0)
  outside : (w.storeAt (w.sessionAt 0).store).batchDepth = 0
  valid : ((w.sessionAt 0).rules.validate (w.valuesOf (w.sessionAt 0))
    (some (w.visibilityOf (w.sessionAt 0)))).outcome.valid = true
  handed : payload w (w.sessionAt 0) = handed
  errors : ((w.sessionAt 0).rules.validate (payload w (w.sessionAt 0))
    (some (w.visibilityOf (w.sessionAt 0)))).outcome.errors = errors

/-- An outcome can be told from that of the payload by options that follow a hidden field, by a
    validator whose companion is hidden, and by a check of the host's own that looks at a hidden
    field. -/
theorem payload_outcomes_differ :
    breedStray.Strays [("breed", .str "poodle")] [("breed", ["Invalid option"])] ∧
    tagStray.Strays [("tag", .str "blue")] [("tag", ["Validation failed for tag"])] ∧
    chipStray.Strays [("chip", .int 7)] [("chip", ["Not without reason"])] := by
  have plain {a b : String × Value} (isPlain : a.2.Plain) (isPlain' : b.2.Plain) :
      ∀ entry ∈ [a, b], entry.2.Plain :=
    List.forall_mem_cons.mpr ⟨isPlain, List.forall_mem_singleton.mpr isPlain'⟩
  refine ⟨⟨(breedOpened_filling "pet").did (.setMany (plain ?_ ?_)), rfl, rfl, rfl, rfl, rfl⟩,
    ⟨(breedOpened_filling "pet").did (.setMany (plain ?_ ?_)), rfl, rfl, rfl, rfl, rfl⟩,
    ⟨(breedOpened_filling "reason").did (.setMany (plain ?_ ?_)), rfl, rfl, rfl, rfl, rfl⟩⟩
  all_goals exact ⟨trivial, rfl⟩

/-! ## Forms in which this cannot happen -/

/-- Where the fields that are read on account of others have no condition, or conditions refer to
    them, the outcome is that of the payload alone. -/
theorem Filling.validate_payload_of_watched (filling : w.Filling)
    (used : w.session.map w.sessionAt = some session)
    (outside : (w.storeAt session.store).batchDepth = 0)
    (reads : ∀ name ∈ session.rules.readsAcross (w.valuesOf session)
        (some (w.visibilityOf session)),
      session.shared.schema.Watches name ∨
        ∀ field, session.shared.schema.field? name = some field → field.condition = none)
    (alike : ∀ compiled ∈ session.rules.fields,
      isShown (some (w.visibilityOf session)) compiled.name = true →
        compiled.ChecksAlike (payload w session) (w.valuesOf session)) :
    session.rules.validate (payload w session) (some (w.visibilityOf session)) =
      session.rules.validate (w.valuesOf session) (some (w.visibilityOf session)) := by
  have serves := filling.serves used
  refine Ruleset.validate_congr (fun name shown => ?_) (fun name across => ?_) alike
  · rw [value_payload, if_pos shown]
  · rw [value_payload]
    split
    next => rfl
    next hidden =>
      rw [Bool.not_eq_true, Form.not_isShown_iff] at hidden
      rcases reads name across with watched | free
      · rw [Entries.value, show (w.valuesOf session).get? name = none from
          serves.absent outside hidden watched]
        rfl
      · -- a field without a condition is never hidden
        exact absurd (serves.sound.rightBut.fits.conditional hidden) (serves.free free)

end Workspace

end Formwork
