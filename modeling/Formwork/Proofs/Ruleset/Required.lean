import Formwork.Proofs.Ruleset.Validation
import Formwork.Proofs.Visibility.Conditions
import Formwork.Ruleset.Compile

/-! # Required fields

A ruleset checks the last declaration of every name. So when a validation finds nothing wanting,
every required field that is shown has a value, and not an empty one.
-/

namespace Formwork

namespace Field

/-- A field has a value that is not empty by the rule of its type. Only a type of the host's own may
    be content with none, namely if it does not count null as empty. -/
def IsFilled (field : Field) (types : Entries FieldType) (values : Entries Value) : Prop :=
  (∃ value, values.get? field.name = some value ∧
    (FieldType.resolve types field.type).emptiness.holds value = false) ∨
  ∃ isEmpty, (FieldType.resolve types field.type).emptiness = .own isEmpty ∧
    isEmpty .null = false ∧ values.get? field.name = none

theorem IsFilled.congr {field : Field} {types : Entries FieldType} {values later : Entries Value}
    (filled : field.IsFilled types values)
    (same : later.get? field.name = values.get? field.name) : field.IsFilled types later := by
  unfold IsFilled
  rw [same]
  exact filled

theorem isFilled_of_value {field : Field} {types : Entries FieldType} {values : Entries Value}
    (filled : (FieldType.resolve types field.type).emptiness.holds (values.value field.name) =
      false) : field.IsFilled types values := by
  cases found : values.get? field.name with
  | some value =>
      rw [Entries.value, found] at filled
      exact .inl ⟨value, found, filled⟩
  | none =>
      rw [Entries.value, found, Option.getD_none] at filled
      cases rule : (FieldType.resolve types field.type).emptiness with
      | common | onlyNull =>
          rw [rule] at filled
          cases filled
      | own isEmpty =>
          rw [rule] at filled
          exact .inr ⟨isEmpty, rule, filled, found⟩

/-- What data holds for a field: nothing where it does not ask for the field, and a value that is
    not empty where it does and one is required. -/
structure IsAnswered (field : Field) (types : Entries FieldType) (data : Entries Value) :
    Prop where
  closed : field.isDue data = false → data.get? field.name = none
  complete : field.rules.required = true → field.isDue data = true → field.IsFilled types data

theorem get?_ofList (fields : List Field) (name : String) :
    (Entries.ofList (fields.map fun field => (field.name, field))).get? name =
      last? fields name := by
  induction fields using List.reverseRecOn with
  | nil => rfl
  | append_singleton fields field ih =>
      have last : Entries.ofList ((fields ++ [field]).map fun field => (field.name, field)) =
          (Entries.ofList (fields.map fun field => (field.name, field))).put field.name
            field := by
        simp [Entries.ofList, Entries.putAll, List.foldl_append]
      rw [last, Entries.get?_put, ih, last?_concat]

end Field

theorem Schema.mem_effectiveFields {schema : Schema} {name : String} {field : Field}
    (declared : schema.field? name = some field) : field ∈ schema.effectiveFields := by
  have reads : (Entries.ofList (schema.fields.map fun field => (field.name, field))).get? name =
      some field := (Field.get?_ofList schema.fields name).trans declared
  exact List.mem_map.mpr ⟨(name, field), Entries.mem_of_get? reads, rfl⟩

namespace Ruleset

theorem compileFields_cons {options : CompileOptions} {field : Field} {rest : List Field}
    {compiled : List CompiledField}
    (h : compileFields options (field :: rest) = .ok compiled) :
    ∃ check checks, field.compile options = .ok check ∧
      compileFields options rest = .ok checks ∧ compiled = check :: checks := by
  rw [compileFields] at h
  cases first : field.compile options with
  | error error =>
      rw [first] at h
      cases h
  | ok check =>
      cases others : compileFields options rest with
      | error error =>
          rw [first, others] at h
          cases h
      | ok checks =>
          rw [first, others] at h
          cases h
          exact ⟨check, checks, rfl, rfl, rfl⟩

theorem compile_field {options : CompileOptions} {field : Field} {check : CompiledField}
    (h : field.compile options = .ok check) :
    check.field = field ∧ check.type = FieldType.resolve options.fieldTypes field.type := by
  unfold Field.compile at h
  cases pattern : field.compilePattern options.characters with
  | error error =>
      rw [pattern] at h
      cases h
  | ok node =>
      rw [pattern] at h
      cases h
      exact ⟨rfl, rfl⟩

theorem compileFields_mem {options : CompileOptions} {fields : List Field}
    {compiled : List CompiledField} (h : compileFields options fields = .ok compiled)
    {field : Field} (member : field ∈ fields) :
    ∃ check ∈ compiled, field.compile options = .ok check := by
  induction fields generalizing compiled with
  | nil => cases member
  | cons first rest ih =>
      obtain ⟨check, checks, one, others, rfl⟩ := compileFields_cons h
      rcases List.mem_cons.mp member with same | later
      · subst same
        exact ⟨check, List.mem_cons_self, one⟩
      · obtain ⟨found, listed, rest⟩ := ih others later
        exact ⟨found, List.mem_cons_of_mem _ listed, rest⟩

theorem compile_parts {options : CompileOptions} {schema : Schema} {rules : Ruleset}
    (compiled : Ruleset.compile options schema = .ok rules) :
    compileFields options schema.effectiveFields = .ok rules.fields ∧
      rules.crossField = schema.effectiveFields.filterMap (·.crossFieldCheck? options) ∧
      rules.async = schema.effectiveFields.filterMap (·.asyncCheck? options) ∧
      rules.asyncErrorMessage = options.config.asyncErrorMessage := by
  simp only [Ruleset.compile] at compiled
  cases checks : compileFields options schema.effectiveFields with
  | error error =>
      rw [checks] at compiled
      cases compiled
  | ok found =>
      rw [checks] at compiled
      cases compiled
      exact ⟨rfl, rfl, rfl, rfl⟩

theorem type_of_mem_compileFields {fields : List Field} {checks : List CompiledField}
    (compiled : compileFields options fields = .ok checks) {check : CompiledField}
    (member : check ∈ checks) :
    check.type = FieldType.resolve options.fieldTypes check.field.type := by
  induction fields generalizing checks with
  | nil =>
      cases compiled
      cases member
  | cons field rest ih =>
      obtain ⟨first, others, one, more, rfl⟩ := compileFields_cons compiled
      rcases List.mem_cons.mp member with rfl | among
      · obtain ⟨same, type⟩ := compile_field one
        rw [type, same]
      · exact ih more among

theorem compile_declared {options : CompileOptions} {schema : Schema} {rules : Ruleset}
    (compiled : Ruleset.compile options schema = .ok rules) {name : String} {field : Field}
    (declared : schema.field? name = some field) :
    ∃ check ∈ rules.fields, field.compile options = .ok check :=
  compileFields_mem (compile_parts compiled).1 (Schema.mem_effectiveFields declared)

theorem isFilled_of_isClean {options : CompileOptions} {schema : Schema} {rules : Ruleset}
    (compiled : Ruleset.compile options schema = .ok rules) {values : Entries Value}
    {map : Visibility} (clean : (rules.validate values (some map)).isClean = true)
    {name : String} {field : Field} (declared : schema.field? name = some field)
    (required : field.rules.required = true) (shown : isShown (some map) field.name = true) :
    field.IsFilled options.fieldTypes values := by
  obtain ⟨check, member, one⟩ := compile_declared compiled declared
  obtain ⟨same, type⟩ := compile_field one
  have none := (isClean_validate_iff.mp clean).1 check member
    (by rw [CompiledField.name, same]; exact shown)
  rw [CompiledField.check, CompiledField.name, same, type, required] at none
  split at none
  next => cases none
  next filled => exact Field.isFilled_of_value (Bool.not_eq_true _ ▸ filled)

end Ruleset

end Formwork
