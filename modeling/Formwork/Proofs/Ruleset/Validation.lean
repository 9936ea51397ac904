import Formwork.Proofs.Ruleset.Phases

/-! # What a validation comes to

A validation is told from what each of its checks comes to by itself. The first phase in which a
check that counts is found wanting gives all the errors, and validators of later phases are not
called. A validator that fails never speaks against the values if it is one over several fields,
and always does if it is asynchronous.
-/

namespace Formwork

variable {values : Entries Value} {visibility : Option Visibility} {rules : Ruleset}
  {name message : String}

namespace Findings

theorem isClean_andThen (first second : Findings) :
    (first.andThen second).isClean = (first.isClean && second.isClean) := by
  unfold andThen
  cases clean : first.isClean with
  | false => simpa using clean
  | true => simp [isClean]

theorem errors_andThen (first second : Findings) :
    (first.andThen second).errors = if first.isClean then second.errors else first.errors := by
  unfold andThen
  cases clean : first.isClean <;> rfl

end Findings

namespace Ruleset

/-! ## The first phase -/

/-- The fields that are shown and found wanting by themselves, however they are checked. -/
def wanting (check : CompiledField → Entries Value → List String) (rules : Ruleset)
    (values : Entries Value) (visibility : Option Visibility) : Errors :=
  rules.fields.filterMap fun compiled =>
    if isShown visibility compiled.name && !(check compiled values).isEmpty then
      some (compiled.name, check compiled values)
    else none

theorem checkFields_errors (rules : Ruleset) (values : Entries Value)
    (visibility : Option Visibility) : (rules.checkFields values visibility).errors =
      Entries.ofList (rules.wanting CompiledField.check values visibility) := rfl

variable {check : CompiledField → Entries Value → List String}

theorem mem_wanting {entry : String × List String} :
    entry ∈ rules.wanting check values visibility ↔ ∃ compiled ∈ rules.fields,
      isShown visibility compiled.name = true ∧ check compiled values ≠ [] ∧
        (compiled.name, check compiled values) = entry := by
  simp [wanting, List.mem_filterMap, and_assoc]

theorem mem_names_wanting : name ∈ (Entries.ofList (rules.wanting check values visibility)).names ↔
    ∃ compiled ∈ rules.fields, isShown visibility compiled.name = true ∧
      check compiled values ≠ [] ∧ compiled.name = name := by
  refine Entries.mem_names_putAll.trans ((or_iff_right List.not_mem_nil).trans ?_)
  rw [Entries.names, List.mem_map]
  constructor
  · rintro ⟨entry, member, rfl⟩
    obtain ⟨compiled, among, shown, some, rfl⟩ := mem_wanting.mp member
    exact ⟨compiled, among, shown, some, rfl⟩
  · rintro ⟨compiled, among, shown, some, rfl⟩
    exact ⟨_, mem_wanting.mpr ⟨compiled, among, shown, some, rfl⟩, rfl⟩

theorem wanting_eq_nil_iff : rules.wanting check values visibility = [] ↔
    ∀ compiled ∈ rules.fields, isShown visibility compiled.name = true →
      check compiled values = [] := by
  simp [wanting, List.filterMap_eq_nil_iff]

theorem told_wanting : Errors.Told (Entries.ofList (rules.wanting check values visibility)) := by
  have some : ∀ name messages,
      (Entries.ofList (rules.wanting check values visibility)).get? name = some messages →
        messages ≠ [] := by
    refine Entries.forall_get?_putAll (fun name messages found => nomatch found) ?_
    intro entry member
    obtain ⟨compiled, -, -, some, rfl⟩ := mem_wanting.mp member
    exact some
  exact fun name none => some name [] none rfl

theorem reports_wanting
    (reported : Errors.Reports (Entries.ofList (rules.wanting check values visibility)) name
      message) :
    ∃ compiled ∈ rules.fields, isShown visibility compiled.name = true ∧ compiled.name = name ∧
      message ∈ check compiled values := by
  have listed := (Entries.mem_names_putAll.mp reported.listed).resolve_left List.not_mem_nil
  obtain ⟨messages, member, found⟩ := Entries.get?_putAll_of_mem listed []
  obtain ⟨compiled, among, shown, -, same⟩ := mem_wanting.mp member
  cases same
  rw [Errors.Reports, Entries.ofList, found] at reported
  exact ⟨compiled, among, shown, rfl, reported⟩

theorem ofList_wanting_eq_nil_iff :
    Entries.ofList (rules.wanting check values visibility) = [] ↔
      ∀ compiled ∈ rules.fields, isShown visibility compiled.name = true →
        check compiled values = [] := by
  rw [← wanting_eq_nil_iff]
  constructor
  · intro none
    cases some : rules.wanting check values visibility with
    | nil => rfl
    | cons entry rest =>
        have listed : entry.1 ∈ (Entries.ofList (entry :: rest)).names :=
          Entries.mem_names_putAll.mpr (.inr List.mem_cons_self)
        rw [← some, none] at listed
        cases listed
  · intro none
    rw [none]
    rfl

/-! ## What each phase comes to -/

/-- Every field that is shown passes its own checks. -/
def FieldsPass (rules : Ruleset) (values : Entries Value) (visibility : Option Visibility) :
    Prop :=
  ∀ compiled ∈ rules.fields, isShown visibility compiled.name = true →
    compiled.check values = []

/-- The calls of the validators over several fields whose owner and named fields are all shown. -/
def crossFieldCalls (rules : Ruleset) (values : Entries Value)
    (visibility : Option Visibility) : List ValidatorCall :=
  (rules.crossField.filter fun check =>
      (check.owner :: check.fields).all (isShown visibility)).map fun check =>
    { validator := check.validator
      arguments := [.object (check.restricted values), .list (check.targets.map .str)]
      reply := check.function (check.restricted values) check.targets }

/-- The calls of the asynchronous validators whose field is shown and has a value: they are given
    this value and those of the companions. -/
def asyncCalls (rules : Ruleset) (values : Entries Value) (visibility : Option Visibility) :
    List ValidatorCall :=
  (rules.async.filter fun check =>
      isShown visibility check.field && !(values.value check.field).isEmpty).map fun check =>
    { validator := check.validator
      arguments := values.value check.field :: check.companions.map values.value
      reply := check.function (values.value check.field :: check.companions.map values.value) }

/-- No call of a validator over several fields is answered no. -/
def CrossFieldPasses (rules : Ruleset) (values : Entries Value)
    (visibility : Option Visibility) : Prop :=
  ∀ call ∈ rules.crossFieldCalls values visibility, ¬call.Denies

/-- Every call of an asynchronous validator is answered yes. -/
def AsyncPasses (rules : Ruleset) (values : Entries Value) (visibility : Option Visibility) :
    Prop :=
  ∀ call ∈ rules.asyncCalls values visibility, call.Grants

theorem crossFieldPasses_iff : rules.CrossFieldPasses values visibility ↔
    ∀ check ∈ rules.crossField, check.isActive visibility = true →
      check.complaint? values = none := by
  have calls : rules.crossFieldCalls values visibility =
      (rules.crossField.filter (·.isActive visibility)).map (·.call values) := rfl
  simp only [CrossFieldPasses, calls, List.forall_mem_map, List.mem_filter, and_imp,
    CrossFieldCheck.complaint?_eq_none_iff]

theorem asyncPasses_iff (message : String) : rules.AsyncPasses values visibility ↔
    ∀ check ∈ rules.async, check.isActive values visibility = true →
      check.complaint? message values = none := by
  have calls : rules.asyncCalls values visibility =
      (rules.async.filter (·.isActive values visibility)).map (·.call values) := rfl
  simp only [AsyncPasses, calls, List.forall_mem_map, List.mem_filter, and_imp,
    AsyncCheck.complaint?_eq_none_iff]

theorem checkFields_isClean_iff :
    (rules.checkFields values visibility).isClean = true ↔ rules.FieldsPass values visibility := by
  rw [Findings.isClean, checkFields_errors, List.isEmpty_iff, ofList_wanting_eq_nil_iff]
  rfl

theorem checkCrossField_isClean_iff :
    (rules.checkCrossField values visibility).isClean = true ↔
      rules.CrossFieldPasses values visibility := by
  have collects := CrossFieldCheck.run_collects values visibility
  exact (collects.isClean_iff CrossFieldCheck.targets_ne_nil rules.crossField).trans
    crossFieldPasses_iff.symm

theorem checkAsync_isClean_iff :
    (rules.checkAsync values visibility).isClean = true ↔ rules.AsyncPasses values visibility := by
  have collects := AsyncCheck.run_collects rules.asyncErrorMessage values visibility
  exact (collects.isClean_iff (fun _ => List.cons_ne_nil _ _) rules.async).trans
    (asyncPasses_iff _).symm

theorem reports_checkCrossField :
    (rules.checkCrossField values visibility).errors.Reports name message ↔
      ∃ check ∈ rules.crossField, check.Refuses values visibility name ∧
        check.message = message := by
  have collects := CrossFieldCheck.run_collects values visibility
  refine (collects.reports_foldl rules.crossField {}).trans ?_
  refine (or_iff_right List.not_mem_nil).trans
    (exists_congr fun check => and_congr_right fun _ => ?_)
  rw [CrossFieldCheck.refuses_iff, CrossFieldCheck.complaint?_eq_some_iff,
    CrossFieldCheck.complaint?_eq_some_iff]
  simp only [and_true, and_assoc]

theorem reports_checkAsync :
    (rules.checkAsync values visibility).errors.Reports name message ↔
      ∃ check ∈ rules.async, name = check.field ∧
        check.Refuses rules.asyncErrorMessage values visibility message := by
  have collects := AsyncCheck.run_collects rules.asyncErrorMessage values visibility
  refine (collects.reports_foldl rules.async {}).trans ?_
  simp only [List.mem_singleton, AsyncCheck.refuses_iff, and_left_comm]
  exact or_iff_right List.not_mem_nil

theorem isClean_validateLocal_iff : (rules.validateLocal values visibility).isClean = true ↔
    rules.FieldsPass values visibility ∧ rules.CrossFieldPasses values visibility := by
  rw [validateLocal, Findings.isClean_andThen, Bool.and_eq_true, checkFields_isClean_iff,
    checkCrossField_isClean_iff]

theorem isClean_validate_iff : (rules.validate values visibility).isClean = true ↔
    rules.FieldsPass values visibility ∧ rules.CrossFieldPasses values visibility ∧
      rules.AsyncPasses values visibility := by
  rw [validate, Findings.isClean_andThen, Bool.and_eq_true, isClean_validateLocal_iff,
    checkAsync_isClean_iff, and_assoc]

/-! ## The first phase that fails -/

theorem validate_of_fields (fail : ¬rules.FieldsPass values visibility) :
    rules.validate values visibility = rules.checkFields values visibility := by
  have first : ¬(rules.checkFields values visibility).isClean = true :=
    fun clean => fail (checkFields_isClean_iff.mp clean)
  rw [validate, validateLocal, Findings.andThen, Findings.andThen, if_neg first, if_neg first]

theorem validateLocal_of_pass (pass : rules.FieldsPass values visibility) :
    rules.validateLocal values visibility = rules.checkCrossField values visibility := by
  rw [validateLocal, Findings.andThen, if_pos (checkFields_isClean_iff.mpr pass)]
  rfl

theorem validate_of_crossField (pass : rules.FieldsPass values visibility)
    (fail : ¬rules.CrossFieldPasses values visibility) :
    rules.validate values visibility = rules.checkCrossField values visibility := by
  have second : ¬(rules.checkCrossField values visibility).isClean = true :=
    fun clean => fail (checkCrossField_isClean_iff.mp clean)
  rw [validate, validateLocal_of_pass pass, Findings.andThen, if_neg second]

theorem errors_validate_of_pass (pass : rules.FieldsPass values visibility)
    (agree : rules.CrossFieldPasses values visibility) :
    (rules.validate values visibility).errors = (rules.checkAsync values visibility).errors := by
  rw [validate, validateLocal_of_pass pass, Findings.errors_andThen,
    if_pos (checkCrossField_isClean_iff.mpr agree)]

theorem told_validate : (rules.validate values visibility).errors.Told := by
  by_cases pass : rules.FieldsPass values visibility
  · by_cases agree : rules.CrossFieldPasses values visibility
    · rw [errors_validate_of_pass pass agree]
      exact (AsyncCheck.run_collects _ values visibility).told_foldl _ fun _ => nofun
    · rw [validate_of_crossField pass agree]
      exact (CrossFieldCheck.run_collects values visibility).told_foldl _ fun _ => nofun
  · rw [validate_of_fields pass]
    exact told_wanting

/-! ## Validators that fail -/

end Ruleset

end Formwork
