import Formwork.Proofs.Ruleset.Required

/-! # Hidden fields

A hidden field is never found wanting. With the built-in types its value is read only where it
selects the options of a shown field, or is handed to the asynchronous validator of one; without
these, values that differ in hidden fields are validated alike, down to the calls of validators.
-/

namespace Formwork

variable {values later : Entries Value} {visibility : Option Visibility} {rules : Ruleset}
  {options : CompileOptions} {schema : Schema} {name message : String}

namespace FieldType

theorem offersOptions_builtin {tag : String}
    (offers : (resolve [] tag).shape.offersOptions = true) :
    tag = "radio" ∨ tag = "multiselect" := by
  have among : ∀ entry ∈ table, entry.2.shape.offersOptions = true →
      entry.1 = "radio" ∨ entry.1 = "multiselect" := by decide
  have resolved : resolve [] tag = (table.get? tag).getD fallback := rfl
  rw [resolved] at offers
  cases known : table.get? tag with
  | none =>
      rw [known] at offers
      cases offers
  | some type =>
      rw [known] at offers
      exact among _ (Entries.mem_of_get? known) offers

end FieldType

theorem Field.dependsOn_of_controlling? {field : Field} (reads : field.controlling? = some name) :
    field.dependsOn = some name := by
  unfold controlling? nonEmpty? at reads
  split at reads
  · exact (Option.filter_eq_some_iff.mp reads).1
  · cases reads

namespace Ruleset

theorem shown_of_reports
    (reported : (rules.validate values visibility).errors.Reports name message) :
    isShown visibility name = true := by
  by_cases pass : rules.FieldsPass values visibility
  · by_cases agree : rules.CrossFieldPasses values visibility
    · rw [errors_validate_of_pass pass agree] at reported
      obtain ⟨check, -, rfl, refuses⟩ := reports_checkAsync.mp reported
      exact refuses.shown
    · rw [validate_of_crossField pass agree] at reported
      obtain ⟨check, -, refuses, -⟩ := reports_checkCrossField.mp reported
      obtain ⟨active, target, -⟩ := CrossFieldCheck.refuses_iff.mp refuses
      exact CrossFieldCheck.shown_of_isActive active target
  · rw [validate_of_fields pass] at reported
    obtain ⟨compiled, -, shown, rfl, -⟩ := reports_wanting reported
    exact shown

theorem not_mem_names_of_hidden (hidden : isShown visibility name = false) :
    name ∉ (rules.validate values visibility).errors.names := by
  intro listed
  obtain ⟨message, reported⟩ := told_validate.reports listed
  rw [shown_of_reports reported] at hidden
  cases hidden

theorem shown_of_selectors (compiled : compile options schema = .ok rules)
    (builtin : options.fieldTypes = [])
    (selecting : ∀ check ∈ rules.fields, isShown visibility check.name = true →
      check.field.type = "radio" ∨ check.field.type = "multiselect" →
        ∀ name, check.field.dependsOn = some name → isShown visibility name = true)
    (reads : name ∈ rules.selectors values visibility) : isShown visibility name = true := by
  obtain ⟨check, among, controls⟩ := List.mem_filterMap.mp reads
  obtain ⟨member, shown⟩ := List.mem_filter.mp among
  rw [CompiledField.controlling?] at controls
  split at controls
  next offers =>
    have type := type_of_mem_compileFields (compile_parts compiled).1 member
    rw [builtin] at type
    have tagged := FieldType.offersOptions_builtin (type ▸ (Bool.and_eq_true_iff.mp offers).1)
    exact selecting check member shown tagged name (Field.dependsOn_of_controlling? controls)
  next => cases controls

theorem shown_of_companions
    (asking : ∀ check ∈ rules.async, isShown visibility check.field = true →
      ∀ name ∈ check.companions, isShown visibility name = true)
    (reads : name ∈ rules.companions values visibility) : isShown visibility name = true := by
  obtain ⟨check, among, companion⟩ := List.mem_flatMap.mp reads
  obtain ⟨member, active⟩ := List.mem_filter.mp among
  exact asking check member (Bool.and_eq_true_iff.mp active).1 name companion

/-- A hidden field has no errors; and where no options of a shown field follow a hidden field and
    no asynchronous validator of a shown field is given one, validators are called alike and errors
    are the same whatever hidden fields hold. -/
theorem validate_hidden (compiled : compile options schema = .ok rules)
    (builtin : options.fieldTypes = []) (visibility : Option Visibility) :
    (∀ values name, isShown visibility name = false →
      name ∉ (rules.validate values visibility).errors.names) ∧
    ∀ values later,
      (∀ name, isShown visibility name = true → later.value name = values.value name) →
      (∀ check ∈ rules.fields, isShown visibility check.name = true →
        check.field.type = "radio" ∨ check.field.type = "multiselect" →
          ∀ name, check.field.dependsOn = some name → isShown visibility name = true) →
      (∀ check ∈ rules.async, isShown visibility check.field = true →
        ∀ name ∈ check.companions, isShown visibility name = true) →
      rules.validate later visibility = rules.validate values visibility := by
  refine ⟨fun values name hidden => not_mem_names_of_hidden hidden, ?_⟩
  intro values later own selecting asking
  refine validate_congr own (fun name reads => own name ?_) fun check member _ function isOwn => ?_
  · rcases List.mem_append.mp reads with selects | asked
    · exact shown_of_selectors compiled builtin selecting selects
    · split at asked
      next => exact shown_of_companions asking asked
      next => cases asked
  · have type := type_of_mem_compileFields (compile_parts compiled).1 member
    rw [builtin] at type
    exact absurd (type ▸ isOwn) FieldType.shape_builtin

/-! ## A hidden note, for instance -/

/-- A form about a pet, and what the host checks its name with. -/
def nameForm : Schema where
  title := "Pet"
  body := .flat
    [{ name := "pet", type := "radio", options := some ["dog", "cat"] },
     { name := "breed", type := "radio", dependsOn := some "pet"
       optionsMap := some [("dog", ["poodle"])] },
     { name := "petName"
       rules := { crossField := some { fields := ["pet", "petName"], validator := "suits" }
                  async := some { validator := "isFree", companions := ["pet"] } } },
     { name := "note", rules := { maxLength := some 3 } }]

def nameOptions : CompileOptions where
  crossField := [("suits", fun values _ => .ofBool (values.value "pet").truthy)]
  async := [("isFree", fun arguments => .ofBool (arguments.length != 2))]

def nameRules : Ruleset := ((compile nameOptions nameForm).toOption).getD { fields := [] }

/-- What is filled in, with a note. -/
def nameNoted : Entries Value :=
  [("pet", .str "dog"), ("breed", .str "poodle"), ("petName", .str "Rex"), ("note", .str "shy dog")]

theorem nameRules_validate_hidden :
    compile nameOptions nameForm = .ok nameRules ∧
      (nameRules.validate nameNoted none).errors = [("note", ["Must be at most 3 characters"])] ∧
      (nameRules.validate nameNoted (some [("note", false)])).errors =
        [("petName", ["Validation failed for petName"])] ∧
      (nameRules.validate nameNoted (some [("note", false)])).calls.map (·.validator) =
        ["suits", "isFree"] ∧
      "note" ∉ (nameRules.validate nameNoted (some [("note", false)])).errors.names ∧
      nameRules.validate (nameNoted.put "note" .null) (some [("note", false)]) =
        nameRules.validate nameNoted (some [("note", false)]) := by
  have compiled : compile nameOptions nameForm = .ok nameRules := rfl
  have both := validate_hidden compiled rfl (some [("note", false)])
  refine ⟨compiled, rfl, rfl, rfl, both.1 _ _ rfl, both.2 _ _ ?_ ?_ ?_⟩
  · intro name shown
    have other : "note" ≠ name := by
      rintro rfl
      cases shown
    rw [Entries.value, Entries.get?_put, if_neg other]
    rfl
  · decide
  · decide

end Ruleset

end Formwork
