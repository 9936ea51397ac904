import Formwork.Proofs.Ruleset.Declarations

/-! # Validators that are not registered

A schema may refer to validators by names that no registry knows. Such a reference has no effect
on a validation, and neither has its removal: the field keeps its type, its messages and its other
validator, and all other checks stay as they are and where they are. Only a type of the host's own
could tell, if it looked at the references of the fields that it checks.
-/

namespace Formwork

variable {options : CompileOptions} {values : Entries Value} {visibility : Option Visibility}

/-! ## Schemas without these references -/

/-- The rules without references to validators that are not registered. -/
def Rules.registered (options : CompileOptions) (rules : Rules) : Rules :=
  { rules with
    crossField := rules.crossField.filter fun reference =>
      options.crossField.has reference.validator
    async := rules.async.filter fun reference => options.async.has reference.validator }

/-- The field without references to validators that are not registered. -/
def Field.registered (options : CompileOptions) (field : Field) : Field :=
  { field with rules := field.rules.registered options }

namespace Schema

variable {schema : Schema} {f : Field → Field}

def mapFields (f : Field → Field) (schema : Schema) : Schema :=
  { schema with
    body := match schema.body with
      | .flat fields => .flat (fields.map f)
      | .stepped sections =>
          .stepped (sections.map fun step => { step with fields := step.fields.map f }) }

/-- The schema without references to validators that are not registered. -/
def registered (options : CompileOptions) (schema : Schema) : Schema :=
  schema.mapFields (Field.registered options)

theorem fields_mapFields : (schema.mapFields f).fields = schema.fields.map f := by
  unfold mapFields fields
  cases schema.body with
  | flat fields => rfl
  | stepped sections => simp [List.flatMap_map, List.map_flatMap]

theorem fieldNames_mapFields (named : ∀ field, (f field).name = field.name) :
    (schema.mapFields f).fieldNames = schema.fieldNames := by
  simp [fieldNames, fields_mapFields, named]

theorem field?_mapFields (named : ∀ field, (f field).name = field.name) (name : String) :
    (schema.mapFields f).field? name = (schema.field? name).map f := by
  have same : (fun field => decide (field.name = name)) ∘ f =
      fun field => decide (field.name = name) := by
    funext field
    simp [named]
  rw [field?, field?, fields_mapFields, ← List.map_reverse, List.find?_map, same]

theorem effectiveFields_mapFields (named : ∀ field, (f field).name = field.name) :
    (schema.mapFields f).effectiveFields = schema.effectiveFields.map f := by
  rw [effectiveFields_eq, effectiveFields_eq, fieldNames_mapFields named, List.map_filterMap]
  exact List.filterMap_congr fun name _ => field?_mapFields named name

theorem effectiveFields_registered : (schema.registered options).effectiveFields =
    schema.effectiveFields.map (Field.registered options) :=
  effectiveFields_mapFields fun _ => rfl

end Schema

/-! ## Fields -/

/-- A reference that leads to no entry leads to nothing, whether it is dropped or looked up. -/
theorem Entries.bind_filter_has {α β γ : Type} (registry : Entries α) (name : β → String)
    (make : β → α → Option γ) (reference : Option β) :
    ((reference.filter fun reference => registry.has (name reference)).bind fun reference =>
        (registry.get? (name reference)).bind (make reference)) =
      reference.bind fun reference => (registry.get? (name reference)).bind (make reference) := by
  cases reference with
  | none => rfl
  | some reference => cases found : registry.get? (name reference) <;>
      simp [Option.filter, Entries.has, found]

namespace Field

theorem crossFieldCheck?_registered (field : Field) :
    (field.registered options).crossFieldCheck? options = field.crossFieldCheck? options :=
  Entries.bind_filter_has options.crossField CrossFieldReference.validator _ field.rules.crossField

theorem asyncCheck?_registered (field : Field) :
    (field.registered options).asyncCheck? options = field.asyncCheck? options :=
  Entries.bind_filter_has options.async AsyncReference.validator _ field.rules.async

end Field

/-- The checks of a field without references to validators that are not registered. -/
def CompiledField.registered (options : CompileOptions) (compiled : CompiledField) :
    CompiledField :=
  { compiled with field := compiled.field.registered options }

theorem Field.compile_registered (field : Field) : (field.registered options).compile options =
    (field.compile options).map (CompiledField.registered options) := by
  have same : (field.registered options).compilePattern options.characters =
      field.compilePattern options.characters := rfl
  unfold compile
  rw [same]
  cases field.compilePattern options.characters <;> rfl

/-- Whatever the host checks itself in values of a type, it takes no account of the validators to
    which a field refers. -/
def FieldType.IgnoresReferences (type : FieldType) : Prop :=
  ∀ check, type.shape = .own check → ∀ field crossField async pattern value values,
    check { field with rules := { field.rules with crossField, async } } pattern value values =
      check field pattern value values

theorem CompiledField.check_registered {compiled : CompiledField}
    (ignores : compiled.type.IgnoresReferences) :
    (compiled.registered options).check values = compiled.check values := by
  have same : (compiled.field.registered options).checkShape compiled.type.shape compiled.pattern =
      compiled.field.checkShape compiled.type.shape compiled.pattern := by
    funext value values
    cases shape : compiled.type.shape with
    | own check => exact ignores check shape compiled.field _ _ compiled.pattern value values
    | number => rfl
    | choices => rfl
    | _ => cases value <;> rfl
  unfold check registered
  dsimp only
  rw [same]
  rfl

/-! ## Rulesets -/

theorem FieldType.ignores_resolve {types : Entries FieldType} {tag : String}
    (ignore : ∀ entry ∈ types, entry.2.IgnoresReferences) :
    (resolve types tag).IgnoresReferences := by
  cases known : types.get? tag with
  | some type =>
      have resolved : resolve types tag = type := by
        rw [resolve, known]
        rfl
      rw [resolved]
      exact ignore _ (Entries.mem_of_get? known)
  | none =>
      have resolved : resolve types tag = resolve [] tag := by
        rw [resolve, known]
        rfl
      intro check isOwn
      exact absurd (resolved ▸ isOwn) shape_builtin

namespace Ruleset

variable {schema : Schema} {rules : Ruleset}

/-- The ruleset with its fields without references to validators that are not registered. -/
def registered (options : CompileOptions) (rules : Ruleset) : Ruleset :=
  { rules with fields := rules.fields.map (CompiledField.registered options) }

theorem compileFields_registered (fields : List Field) :
    compileFields options (fields.map (Field.registered options)) =
      (compileFields options fields).map (List.map (CompiledField.registered options)) := by
  induction fields with
  | nil => rfl
  | cons field rest ih =>
      rw [List.map_cons, compileFields, compileFields, Field.compile_registered, ih]
      cases field.compile options with
      | error error => rfl
      | ok check => cases compileFields options rest <;> rfl

theorem compile_registered : compile options (schema.registered options) =
    (compile options schema).map (registered options) := by
  rw [compile, compile, Schema.effectiveFields_registered, compileFields_registered,
    List.filterMap_map, List.filterMap_map]
  have crossField : (·.crossFieldCheck? options) ∘ Field.registered options =
      (·.crossFieldCheck? options) := funext Field.crossFieldCheck?_registered
  have async : (·.asyncCheck? options) ∘ Field.registered options =
      (·.asyncCheck? options) := funext Field.asyncCheck?_registered
  rw [crossField, async]
  cases compileFields options schema.effectiveFields <;> rfl

section Checks

variable (ignore : ∀ compiled ∈ rules.fields, compiled.type.IgnoresReferences)

include ignore

theorem checkFields_registered : (rules.registered options).checkFields values visibility =
    rules.checkFields values visibility := by
  unfold checkFields registered
  rw [List.filterMap_map]
  dsimp only
  congr 2
  apply List.filterMap_congr
  intro compiled member
  have check : (compiled.registered options).check values = compiled.check values :=
    compiled.check_registered (ignore compiled member)
  simp only [Function.comp_apply, check]
  rfl

theorem validateLocal_registered : (rules.registered options).validateLocal values visibility =
    rules.validateLocal values visibility := by
  rw [validateLocal, validateLocal, checkFields_registered ignore]
  rfl

theorem validate_registered : (rules.registered options).validate values visibility =
    rules.validate values visibility := by
  rw [validate, validate, validateLocal_registered ignore]
  rfl

end Checks

/-- A schema and the same one without references to validators that are not registered compile
    alike: neither has a ruleset, or both have one with the same checks that ask validators, and
    whatever the values and the fields that are shown, both call the same validators with the same
    arguments and find the same errors. Checks of built-in types take no account of references, and
    those of the host's own are asked to do the same. -/
theorem unregistered_fail_open (options : CompileOptions) (schema : Schema)
    (ignore : ∀ entry ∈ options.fieldTypes, entry.2.IgnoresReferences) :
    (∀ error, compile options (schema.registered options) = .error error ↔
      compile options schema = .error error) ∧
    ∀ rules, compile options schema = .ok rules →
      ∃ others, compile options (schema.registered options) = .ok others ∧
        others.crossField = rules.crossField ∧ others.async = rules.async ∧
        ∀ values visibility,
          others.validateLocal values visibility = rules.validateLocal values visibility ∧
          others.validate values visibility = rules.validate values visibility := by
  rw [compile_registered]
  refine ⟨fun error => ?_, fun rules compiled => ?_⟩
  · cases compile options schema <;> simp [Except.map]
  · refine ⟨rules.registered options, by rw [compiled]; rfl, rfl, rfl, fun values visibility => ?_⟩
    have ignores : ∀ check ∈ rules.fields, check.type.IgnoresReferences := by
      intro check member
      rw [type_of_mem_compileFields (compile_parts compiled).1 member]
      exact FieldType.ignores_resolve ignore
    exact ⟨validateLocal_registered ignores, validate_registered ignores⟩

/-- A form that declares a code twice, and names validators over several fields and asynchronous
    ones of which some are registered and some are not. -/
def strayForm : Schema :=
  { title := "Pet"
    body := .stepped [
      { title := "First"
        fields := [
          { name := "code", rules := { crossField := some { fields := [], validator := "gone" } } },
          { name := "pet"
            rules :=
              { errorMessage := some "Check the pet"
                crossField := some { fields := ["pet", "owner"], validator := "passwordsMatch" }
                async := some { validator := "lost", companions := ["owner"] } } }] },
      { title := "Second"
        fields := [
          { name := "owner"
            rules :=
              { required := true
                crossField := some { fields := ["pet"], validator := "unheardOf" }
                async := some { validator := "isFree", companions := ["pet"] } } },
          { name := "code"
            rules := { crossField := some { fields := ["owner"], validator := "gone" } } }] }] }

def strayOptions : CompileOptions :=
  { crossField := Builtin.crossField, async := [("isFree", fun _ => .answers (.bool false))] }

def strayRules : Ruleset := (compile strayOptions strayForm).toOption.getD default

theorem strayForm_fail_open :
    compile strayOptions strayForm = .ok strayRules ∧
    (∃ others, compile strayOptions (strayForm.registered strayOptions) = .ok others ∧
      ∀ values visibility,
        others.validateLocal values visibility = strayRules.validateLocal values visibility ∧
        others.validate values visibility = strayRules.validate values visibility) ∧
    (strayRules.validate [("pet", .str "Rex"), ("owner", .str "Rex")] none).calls.map
      (·.validator) = ["passwordsMatch", "isFree"] := by
  have compiled : compile strayOptions strayForm = .ok strayRules := rfl
  obtain ⟨others, same, -, -, alike⟩ :=
    (unregistered_fail_open strayOptions strayForm nofun).2 strayRules compiled
  exact ⟨compiled, ⟨others, same, alike⟩, rfl⟩

end Ruleset

end Formwork
