import Formwork.Proofs.Ruleset.Declarations
import Formwork.Proofs.Ruleset.Hidden
import Formwork.Proofs.Schema.Document
import Formwork.Proofs.Steps.Visits

/-! # What a step finds wanting

A session for a step has the rules of its section alone, but a check over several fields may name
fields of other sections. The session's map does not know these, so they count as shown: the check
is made, and what it complains of is attached to them as well. Nothing else reports a field of
another section, so where the checks of a section name only its own fields, all that is found
wanting is on the step.
-/

namespace Formwork

variable {options : CompileOptions} {schema : Schema} {rules : Ruleset} {values : Entries Value}
  {visibility : Option Visibility} {name : String}

theorem Errors.Told.mem_names_iff {errors : Errors} (told : errors.Told) :
    name ∈ Entries.names errors ↔ ∃ message, errors.Reports name message :=
  ⟨told.reports, fun ⟨_, reported⟩ => reported.listed⟩

theorem Schema.declared_of_mem_effectiveFields {field : Field}
    (member : field ∈ schema.effectiveFields) : field.name ∈ schema.fieldNames := by
  rw [← Names.mem_distinct, ← Schema.map_name_effectiveFields]
  exact List.mem_map_of_mem member

namespace Ruleset

theorem declared_of_mem_fields (compiled : compile options schema = .ok rules)
    {check : CompiledField} (member : check ∈ rules.fields) : check.name ∈ schema.fieldNames := by
  apply Schema.declared_of_mem_effectiveFields
  rw [← fields_of_compileFields (compile_parts compiled).1]
  exact List.mem_map_of_mem member

theorem mem_crossField_iff (compiled : compile options schema = .ok rules)
    {check : CrossFieldCheck} : check ∈ rules.crossField ↔
      ∃ field ∈ schema.effectiveFields, field.crossFieldCheck? options = some check := by
  rw [(compile_parts compiled).2.1, List.mem_filterMap]

theorem mem_async_iff (compiled : compile options schema = .ok rules) {check : AsyncCheck} :
    check ∈ rules.async ↔
      ∃ field ∈ schema.effectiveFields, field.asyncCheck? options = some check := by
  rw [(compile_parts compiled).2.2.1, List.mem_filterMap]

end Ruleset

theorem Field.crossFieldCheck?_eq_some {field : Field} {check : CrossFieldCheck}
    (declares : field.crossFieldCheck? options = some check) :
    check.owner = field.name ∧ ∃ reference, field.rules.crossField = some reference ∧
      check.fields = reference.fields := by
  simp only [crossFieldCheck?, Option.bind_eq_bind, Option.bind_eq_some_iff, Option.pure_def,
    Option.some.injEq] at declares
  obtain ⟨reference, has, function, known, rfl⟩ := declares
  exact ⟨rfl, reference, has, rfl⟩

theorem Field.asyncCheck?_eq_some {field : Field} {check : AsyncCheck}
    (declares : field.asyncCheck? options = some check) : check.field = field.name := by
  simp only [asyncCheck?, Option.bind_eq_bind, Option.bind_eq_some_iff, Option.pure_def,
    Option.some.injEq] at declares
  obtain ⟨reference, has, function, known, rfl⟩ := declares
  rfl

namespace Ruleset

/-- A check over several fields is made that names a field, and it complains. -/
def Refuses (rules : Ruleset) (values : Entries Value) (visibility : Option Visibility)
    (name : String) : Prop :=
  rules.FieldsPass values visibility ∧ ∃ check ∈ rules.crossField,
    check.isActive visibility = true ∧ name ∈ check.fields ∧
      (check.complaint? values).isSome = true

theorem mem_targets_of_undeclared (compiled : compile options schema = .ok rules)
    (undeclared : name ∉ schema.fieldNames) {check : CrossFieldCheck}
    (member : check ∈ rules.crossField) : name ∈ check.targets ↔ name ∈ check.fields := by
  obtain ⟨field, counts, declares⟩ := (mem_crossField_iff compiled).mp member
  have other : name ≠ check.owner := by
    rintro rfl
    rw [(Field.crossFieldCheck?_eq_some declares).1] at undeclared
    exact undeclared (Schema.declared_of_mem_effectiveFields counts)
  cases named : check.fields <;> simp [CrossFieldCheck.targets, named, other]

/-- A field that is not declared is found wanting by the checks that name it, and only by these. -/
theorem mem_errors_iff_of_undeclared (compiled : compile options schema = .ok rules)
    (undeclared : name ∉ schema.fieldNames) :
    name ∈ (rules.validate values visibility).errors.names ↔
      rules.Refuses values visibility name := by
  rw [told_validate.mem_names_iff]
  by_cases pass : rules.FieldsPass values visibility
  · by_cases agree : rules.CrossFieldPasses values visibility
    · rw [errors_validate_of_pass pass agree]
      constructor
      · rintro ⟨message, reported⟩
        obtain ⟨check, member, rfl, -⟩ := reports_checkAsync.mp reported
        obtain ⟨field, counts, declares⟩ := (mem_async_iff compiled).mp member
        rw [Field.asyncCheck?_eq_some declares] at undeclared
        exact absurd (Schema.declared_of_mem_effectiveFields counts) undeclared
      · rintro ⟨-, check, member, active, -, complains⟩
        have silent : check.complaint? values = none :=
          crossFieldPasses_iff.mp agree check member active
        simp [silent] at complains
    · simp only [validate_of_crossField pass agree, reports_checkCrossField, Refuses, pass,
        true_and, Option.isSome_iff_exists]
      constructor
      · rintro ⟨message, check, member, refuses, -⟩
        obtain ⟨active, target, complains⟩ := CrossFieldCheck.refuses_iff.mp refuses
        have named := (mem_targets_of_undeclared compiled undeclared member).mp target
        exact ⟨check, member, active, named, _, complains⟩
      · rintro ⟨check, member, active, named, message, complains⟩
        have target := (mem_targets_of_undeclared compiled undeclared member).mpr named
        obtain ⟨-, rfl⟩ := CrossFieldCheck.complaint?_eq_some_iff.mp complains
        exact ⟨_, check, member, CrossFieldCheck.refuses_iff.mpr ⟨active, target, complains⟩, rfl⟩
  · rw [validate_of_fields pass]
    constructor
    · rintro ⟨message, reported⟩
      obtain ⟨check, member, -, rfl, -⟩ := reports_wanting reported
      exact absurd (declared_of_mem_fields compiled member) undeclared
    · rintro ⟨passes, -⟩
      exact absurd passes pass

end Ruleset

namespace Workspace

variable {w w' : Workspace} {steps : StepRun} {session : Session} {step : Section}

theorem openStep_compiles (running : w.run = some steps)
    (here : steps.sequence.schema.sections[steps.sequence.index]? = some step) {hooks : Hooks}
    (opened : openStep hooks w = (.ok session, w')) :
    Ruleset.compile w.options (steps.sequence.schema.ofSection step) = .ok session.rules := by
  have stepped : steps.sequence.schema.isMultiStep = true := by
    have some : steps.sequence.schema.sections ≠ [] := by
      intro none
      simp [none] at here
    simpa [Schema.isMultiStep] using some
  rw [openStep_apply running] at opened
  rw [← StepSequence.current_eq stepped here]
  exact (openSession_compiles opened).2

/-- A session for a step finds fields wanting that its map shows. Fields that the section does not
    declare are among them just when a check is made that names them, and it complains; so there
    are none if the checks of the section name its own fields only. -/
theorem openStep_validate (running : w.run = some steps)
    (here : steps.sequence.schema.sections[steps.sequence.index]? = some step) (hooks : Hooks)
    (opened : openStep hooks w = (.ok session, w')) (later : Workspace) :
    ∃ outcome after, validate session later = (.ok outcome, after) ∧
      (outcome.valid = true ↔ outcome.errorFields = []) ∧
      (∀ name ∈ outcome.errorFields, isShown (some (later.visibilityOf session)) name = true) ∧
      (∀ name, name ∉ step.names → (name ∈ outcome.errorFields ↔
        session.rules.Refuses (later.valuesOf session) (some (later.visibilityOf session)) name)) ∧
      ((∀ field ∈ step.fields, ∀ reference, field.rules.crossField = some reference →
          reference.fields ⊆ step.names) →
        ∀ name ∈ outcome.errorFields, name ∈ step.names) := by
  have compiled := openStep_compiles running here opened
  have names := Schema.ofSection_fieldNames steps.sequence.schema step
  have undeclared : ∀ name, name ∉ step.names →
      (name ∈ (session.rules.validate (later.valuesOf session)
          (some (later.visibilityOf session))).errors.names ↔
        session.rules.Refuses (later.valuesOf session) (some (later.visibilityOf session)) name) :=
    fun name foreign => Ruleset.mem_errors_iff_of_undeclared compiled (names.symm ▸ foreign)
  refine ⟨_, _, rfl, ?_, ?_, undeclared, ?_⟩
  · simp [Findings.outcome, Findings.isClean, Outcome.errorFields, Entries.names]
  · intro name listed
    by_contra hidden
    exact Ruleset.not_mem_names_of_hidden (Bool.eq_false_iff.mpr hidden) listed
  · intro within name listed
    by_contra foreign
    obtain ⟨-, check, member, -, named, -⟩ := (undeclared name foreign).mp listed
    obtain ⟨field, counts, declares⟩ := (Ruleset.mem_crossField_iff compiled).mp member
    obtain ⟨-, reference, has, same⟩ := Field.crossFieldCheck?_eq_some declares
    have among : field ∈ step.fields := by
      rw [← Schema.ofSection_fields steps.sequence.schema step]
      exact Field.mem_of_last? (Schema.field?_of_mem_effectiveFields counts)
    exact foreign (within field among reference has (same ▸ named))

/-! ## A password that is repeated on the next step, for instance -/

def accountForm : Value :=
  .object [("formTitle", .str "Account"), ("sections", .list [
    .object [("title", .str "Password"), ("fields", .list [
      .object [("name", .str "password"), ("validation", .object [
        ("customValidator", .object [("validator", .str "passwordsMatch"),
          ("fields", .list [.str "password", .str "repeated"])])])]])],
    .object [("title", .str "Again"), ("fields", .list [.object [("name", .str "repeated")]])]])]

def accountSchema : Schema := (Schema.ofValue accountForm).toOption.getD default

def accountBegun : Workspace :=
  (act (.begin "account" .accepted) { schemas := [("account", accountSchema)]
                                      options := { crossField := Builtin.crossField } }).2

def accountPage : Session :=
  (openStep (callbacks accountBegun.depthLimit) accountBegun).1.toOption.getD default

def accountPaged : Workspace := (openStep (callbacks accountBegun.depthLimit) accountBegun).2

def accountGiven : Workspace :=
  (setValues (callbacks accountPaged.depthLimit) accountPage.store
    [("password", .str "secret")] accountPaged).2

theorem accountForm_accepted : Schema.parse {} accountForm = .ok accountSchema :=
  Schema.parse_eq_ok_iff.mpr ⟨Reading.eq_read _ (by decide +kernel), by decide +kernel⟩

theorem accountGiven_visiting : Visiting accountSchema [(0, accountPage)] [] accountGiven := by
  have ran : act (.begin "account" .accepted) { schemas := [("account", accountSchema)]
                                                options := { crossField := Builtin.crossField } } =
      (.ok .done, accountBegun) := rfl
  have began : Visiting accountSchema [] [] accountBegun := .began (.unscripted rfl rfl) rfl ran
  have paged : Visiting accountSchema [(0, accountPage)] [] accountPaged := began.opened rfl rfl
  exact paged.wrote List.mem_cons_self _

/-- The first step reports a field of the second one, and cannot be left. -/
theorem accountGiven_reports_repeated :
    ¬∀ (config : Config) (document : Value) (schema : Schema) (known : List (Nat × Session))
        (made : List Pass) (w after : Workspace) (i : Nat) (session : Session) (step : Section)
        (outcome : Outcome), Schema.parse config document = .ok schema →
      Visiting schema known made w → (i, session) ∈ known → schema.sections[i]? = some step →
      validate session w = (.ok outcome, after) →
      ∀ name ∈ outcome.errorFields,
        name ∈ step.names ∧ isShown (some (w.visibilityOf session)) name = true := by
  intro within
  have own := within {} accountForm accountSchema _ _ accountGiven _ 0 accountPage _ _
    accountForm_accepted accountGiven_visiting List.mem_cons_self rfl rfl "repeated"
    (by decide +kernel)
  exact absurd own.1 (by decide +kernel)

def accountRun : StepRun :=
  { key := "account", submission := .accepted
    sequence := { schema := accountSchema, startedAt := .zero } }

theorem accountGiven_validate :
    accountBegun.run = some accountRun ∧
      openStep (callbacks accountBegun.depthLimit) accountBegun = (.ok accountPage, accountPaged) ∧
      ∃ outcome after, validate accountPage accountGiven = (.ok outcome, after) ∧
        outcome.errorFields = ["password", "repeated"] ∧
        (∀ name ∈ outcome.errorFields,
          isShown (some (accountGiven.visibilityOf accountPage)) name = true) ∧
        accountPage.rules.Refuses (accountGiven.valuesOf accountPage)
          (some (accountGiven.visibilityOf accountPage)) "repeated" := by
  have running : accountBegun.run = some accountRun := rfl
  have opened : openStep (callbacks accountBegun.depthLimit) accountBegun =
      (.ok accountPage, accountPaged) := rfl
  obtain ⟨outcome, after, ran, -, shown, foreign, -⟩ :=
    openStep_validate running rfl _ opened accountGiven
  have found : (validate accountPage accountGiven).1.map (·.errorFields) =
      .ok ["password", "repeated"] := rfl
  rw [ran] at found
  have listed : outcome.errorFields = ["password", "repeated"] := Except.ok.inj found
  refine ⟨running, opened, outcome, after, ran, listed, shown, (foreign "repeated" ?_).mp ?_⟩
  · decide +kernel
  · simp [listed]

end Workspace

end Formwork
