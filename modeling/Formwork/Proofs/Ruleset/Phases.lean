import Formwork.Proofs.Ruleset.Reading

/-! # What the phases of a validation find

Each check comes to something by itself: a field to messages, a validator to a complaint or none.
A phase reports what its checks come to, and nothing else, and calls the validators of the checks
that are active once each, in the order of the checks.
-/

namespace Formwork

variable {values : Entries Value} {visibility : Option Visibility}

/-! ## Messages -/

namespace Errors

variable {errors : Errors} {key text name message : String}

/-- A message is among those of a field. -/
def Reports (errors : Errors) (name message : String) : Prop :=
  message ∈ (Entries.get? errors name).getD []

/-- No field is listed without a message. -/
def Told (errors : Errors) : Prop := ∀ name, Entries.get? errors name ≠ some []

theorem reports_add : (errors.add key text).Reports name message ↔
    errors.Reports name message ∨ name = key ∧ text = message := by
  unfold Reports add
  rw [Entries.get?_put]
  by_cases same : key = name
  · simp [same, eq_comm]
  · simp [same, Ne.symm same]

theorem reports_addOnce : (errors.addOnce key text).Reports name message ↔
    errors.Reports name message ∨ name = key ∧ text = message := by
  unfold Reports addOnce
  rw [Entries.get?_put]
  by_cases same : key = name
  · subst same
    by_cases known : text ∈ (Entries.get? errors key).getD []
    · simp only [if_true, List.contains_iff_mem.mpr known, Option.getD_some, true_and]
      grind
    · simp [known, eq_comm]
  · simp [same, Ne.symm same]

theorem told_put {messages : List String} (told : errors.Told) (some : messages ≠ []) :
    Told (Entries.put errors key messages) := by
  intro name
  rw [Entries.get?_put]
  split
  · simpa using some
  · exact told name

theorem Told.add (told : errors.Told) : (errors.add key text).Told :=
  told_put told (List.append_ne_nil_of_right_ne_nil _ (List.cons_ne_nil _ _))

theorem Told.addOnce (told : errors.Told) : (errors.addOnce key text).Told := by
  refine told_put told ?_
  split
  next known => exact List.ne_nil_of_mem (List.contains_iff_mem.mp known)
  next => exact List.append_ne_nil_of_right_ne_nil _ (List.cons_ne_nil _ _)

theorem Reports.listed (reported : errors.Reports name message) :
    name ∈ Entries.names errors := by
  rw [← Entries.get?_isSome_iff]
  cases found : Entries.get? errors name with
  | none =>
      rw [Reports, found] at reported
      cases reported
  | some messages => rfl

theorem Told.reports (told : errors.Told) (listed : name ∈ Entries.names errors) :
    ∃ message, errors.Reports name message := by
  obtain ⟨messages, found⟩ := Option.isSome_iff_exists.mp (Entries.get?_isSome_iff.mpr listed)
  have some : messages ≠ [] := fun none => told name (none ▸ found)
  obtain ⟨message, member⟩ := List.exists_mem_of_ne_nil messages some
  exact ⟨message, by rw [Reports, found]; exact member⟩

theorem Told.eq_nil_iff (told : errors.Told) :
    errors = [] ↔ ∀ name message, ¬errors.Reports name message := by
  constructor
  · rintro rfl name message
    exact List.not_mem_nil
  · intro none
    cases errors with
    | nil => rfl
    | cons entry rest =>
        have listed : entry.1 ∈ Entries.names (entry :: rest) := List.mem_cons_self
        obtain ⟨message, reported⟩ := told.reports listed
        exact absurd reported (none _ _)

/-- A message for several fields is added to each of them. -/
def addToAll (errors : Errors) (targets : List String) (text : String) : Errors :=
  targets.foldl (fun errors name => Errors.addOnce errors name text) errors

theorem reports_addToAll {targets : List String} :
    (errors.addToAll targets text).Reports name message ↔
      errors.Reports name message ∨ name ∈ targets ∧ text = message := by
  unfold addToAll
  induction targets generalizing errors with
  | nil => simp
  | cons key rest ih =>
      rw [List.foldl_cons, ih, reports_addOnce, List.mem_cons]
      grind

theorem Told.addToAll (told : errors.Told) (targets : List String) :
    (errors.addToAll targets text).Told := by
  unfold Errors.addToAll
  induction targets generalizing errors with
  | nil => exact told
  | cons key rest ih => exact ih told.addOnce

end Errors

/-! ## Phases that ask validators -/

namespace Findings

variable {α : Type} {run : Findings → α → Findings} {active : α → Bool}
  {call : α → ValidatorCall} {targets : α → List String} {complaint : α → Option String}

/-- A way of running checks calls the validators of active ones, and attaches their complaints to
    their targets. -/
structure Collects (run : Findings → α → Findings) (active : α → Bool)
    (call : α → ValidatorCall) (targets : α → List String) (complaint : α → Option String) :
    Prop where
  calls : ∀ found check,
    (run found check).calls = found.calls ++ if active check then [call check] else []
  reports : ∀ found check name message, (run found check).errors.Reports name message ↔
    found.errors.Reports name message ∨
      active check = true ∧ name ∈ targets check ∧ complaint check = some message
  told : ∀ found check, found.errors.Told → (run found check).errors.Told

variable (h : Collects run active call targets complaint)

include h

theorem Collects.reports_foldl (checks : List α) (found : Findings) {name message : String} :
    (checks.foldl run found).errors.Reports name message ↔
      found.errors.Reports name message ∨ ∃ check ∈ checks,
        active check = true ∧ name ∈ targets check ∧ complaint check = some message := by
  induction checks generalizing found with
  | nil => simp
  | cons check rest ih =>
      rw [List.foldl_cons, ih, h.reports]
      simp only [List.mem_cons]
      grind

theorem Collects.told_foldl (checks : List α) {found : Findings} (told : found.errors.Told) :
    (checks.foldl run found).errors.Told := by
  induction checks generalizing found with
  | nil => exact told
  | cons check rest ih => exact ih (h.told found check told)

/-- Where every check has a target, nothing is found wanting if no active check complains. -/
theorem Collects.isClean_iff (some : ∀ check, targets check ≠ []) (checks : List α) :
    (checks.foldl run {}).isClean = true ↔
      ∀ check ∈ checks, active check = true → complaint check = none := by
  have told : (checks.foldl run {}).errors.Told := h.told_foldl checks fun _ => nofun
  rw [isClean, List.isEmpty_iff, told.eq_nil_iff]
  constructor
  · intro none check member on
    cases complains : complaint check with
    | none => rfl
    | some message =>
        obtain ⟨name, target⟩ := List.exists_mem_of_ne_nil _ (some check)
        refine absurd ?_ (none name message)
        exact (h.reports_foldl checks {}).mpr (.inr ⟨check, member, on, target, complains⟩)
  · intro content name message reported
    rcases (h.reports_foldl checks {}).mp reported with before | ⟨check, member, on, -, complains⟩
    · exact List.not_mem_nil before
    · rw [content check member on] at complains
      cases complains

end Findings

namespace Reply

end Reply

namespace ValidatorCall

/-- The validator answered no. -/
def Denies (call : ValidatorCall) : Prop :=
  ∃ answer, call.reply = .answers answer ∧ answer.truthy = false

/-- The validator answered yes. -/
def Grants (call : ValidatorCall) : Prop :=
  ∃ answer, call.reply = .answers answer ∧ answer.truthy = true

end ValidatorCall

namespace CrossFieldCheck

/-- What a validator over several fields complains of: its answer, if it gives one, is no. -/
def complaint? (check : CrossFieldCheck) (values : Entries Value) : Option String :=
  match (check.call values).reply with
  | .fails _ => none
  | .answers answer => if answer.truthy then none else some check.message

theorem targets_ne_nil (check : CrossFieldCheck) : check.targets ≠ [] := by
  unfold targets
  split
  · exact List.cons_ne_nil _ _
  next named => simpa using named

theorem run_calls (check : CrossFieldCheck) (found : Findings) :
    (check.run values visibility found).calls =
      found.calls ++ if check.isActive visibility then [check.call values] else [] := by
  unfold run
  cases check.isActive visibility with
  | false => simp
  | true =>
      dsimp only
      cases (check.call values).reply with
      | fails => rfl
      | answers answer =>
          dsimp only
          cases answer.truthy <;> rfl

theorem run_errors (check : CrossFieldCheck) (found : Findings) :
    (check.run values visibility found).errors =
      if check.isActive visibility then
        (check.complaint? values).elim found.errors (found.errors.addToAll check.targets)
      else found.errors := by
  unfold run complaint?
  cases check.isActive visibility with
  | false => rfl
  | true =>
      dsimp only
      cases (check.call values).reply with
      | fails => rfl
      | answers answer =>
          dsimp only
          cases answer.truthy <;> rfl

theorem run_collects (values : Entries Value) (visibility : Option Visibility) :
    Findings.Collects (fun found check => run values visibility found check)
      (·.isActive visibility) (·.call values) (·.targets) (·.complaint? values) where
  calls found check := run_calls check found
  reports found check name message := by
    rw [run_errors]
    cases check.isActive visibility with
    | false => simp
    | true => cases check.complaint? values <;> simp [Errors.reports_addToAll]
  told found check told := by
    rw [run_errors]
    split
    · cases check.complaint? values with
      | none => exact told
      | some text => exact told.addToAll check.targets
    · exact told

/-- A check refuses the values of a field: its owner and all named fields are shown, the field is
    one of those named, or the owner if none is, and the validator answers the values of these
    fields with a no. -/
structure Refuses (check : CrossFieldCheck) (values : Entries Value)
    (visibility : Option Visibility) (name : String) : Prop where
  owner : isShown visibility check.owner = true
  named : ∀ field ∈ check.fields, isShown visibility field = true
  target : name ∈ check.fields ∨ check.fields = [] ∧ name = check.owner
  answer : ∃ answer, check.function (check.restricted values) check.targets = .answers answer ∧
    answer.truthy = false

variable {check : CrossFieldCheck} {name message : String}

theorem mem_targets : name ∈ check.targets ↔
    name ∈ check.fields ∨ check.fields = [] ∧ name = check.owner := by
  unfold targets
  cases check.fields <;> simp

theorem complaint?_eq_none_iff : check.complaint? values = none ↔ ¬(check.call values).Denies := by
  unfold complaint? ValidatorCall.Denies
  cases (check.call values).reply <;> simp

theorem complaint?_eq_some_iff : check.complaint? values = some message ↔
    (check.call values).Denies ∧ check.message = message := by
  unfold complaint? ValidatorCall.Denies
  cases (check.call values).reply with
  | fails fault => simp
  | answers answer => cases truthy : answer.truthy <;> simp [truthy]

theorem refuses_iff : check.Refuses values visibility name ↔
    check.isActive visibility = true ∧ name ∈ check.targets ∧
      check.complaint? values = some check.message := by
  rw [isActive, List.all_cons, Bool.and_eq_true, List.all_eq_true, mem_targets,
    complaint?_eq_some_iff]
  constructor
  · exact fun h => ⟨⟨h.owner, h.named⟩, h.target, h.answer, rfl⟩
  · rintro ⟨⟨owner, named⟩, target, answer, -⟩
    exact ⟨owner, named, target, answer⟩

instance (check : CrossFieldCheck) (values : Entries Value) (visibility : Option Visibility)
    (name : String) : Decidable (check.Refuses values visibility name) :=
  decidable_of_iff _ refuses_iff.symm

end CrossFieldCheck

namespace AsyncCheck

/-- What an asynchronous validator complains of: its answer is no, or it gives none. -/
def complaint? (asyncErrorMessage : String) (check : AsyncCheck) (values : Entries Value) :
    Option String :=
  match (check.call values).reply with
  | .fails _ => some asyncErrorMessage
  | .answers answer => if answer.truthy then none else some check.message

theorem run_calls (asyncErrorMessage : String) (check : AsyncCheck) (found : Findings) :
    (check.run asyncErrorMessage values visibility found).calls =
      found.calls ++ if check.isActive values visibility then [check.call values] else [] := by
  unfold run
  cases check.isActive values visibility with
  | false => simp
  | true =>
      dsimp only
      cases (check.call values).reply with
      | fails => rfl
      | answers answer =>
          dsimp only
          cases answer.truthy <;> rfl

theorem run_errors (asyncErrorMessage : String) (check : AsyncCheck) (found : Findings) :
    (check.run asyncErrorMessage values visibility found).errors =
      if check.isActive values visibility then
        (check.complaint? asyncErrorMessage values).elim found.errors
          (found.errors.add check.field)
      else found.errors := by
  unfold run complaint?
  cases check.isActive values visibility with
  | false => rfl
  | true =>
      dsimp only
      cases (check.call values).reply with
      | fails => rfl
      | answers answer =>
          dsimp only
          cases answer.truthy <;> rfl

theorem run_collects (asyncErrorMessage : String) (values : Entries Value)
    (visibility : Option Visibility) :
    Findings.Collects (fun found check => run asyncErrorMessage values visibility found check)
      (·.isActive values visibility) (·.call values) (fun check => [check.field])
      (·.complaint? asyncErrorMessage values) where
  calls found check := run_calls asyncErrorMessage check found
  reports found check name message := by
    rw [run_errors]
    cases check.isActive values visibility with
    | false => simp
    | true => cases check.complaint? asyncErrorMessage values <;> simp [Errors.reports_add]
  told found check told := by
    rw [run_errors]
    split
    · cases check.complaint? asyncErrorMessage values with
      | none => exact told
      | some text => exact told.add
    · exact told

/-- A check refuses the value of its field with a message: the field is shown and has a value, and
    the validator is given this value and those of the companions. It fails, and there is the
    message for that, or it answers no, and there is that of the check. -/
structure Refuses (check : AsyncCheck) (asyncErrorMessage : String) (values : Entries Value)
    (visibility : Option Visibility) (message : String) : Prop where
  shown : isShown visibility check.field = true
  filled : (values.value check.field).isEmpty = false
  reply :
    (∃ fault, check.function (values.value check.field :: check.companions.map values.value) =
      .fails fault) ∧ message = asyncErrorMessage ∨
    (∃ answer, check.function (values.value check.field :: check.companions.map values.value) =
      .answers answer ∧ answer.truthy = false) ∧ message = check.message

variable {check : AsyncCheck} {asyncErrorMessage message : String}

theorem complaint?_eq_none_iff :
    check.complaint? asyncErrorMessage values = none ↔ (check.call values).Grants := by
  unfold complaint? ValidatorCall.Grants
  cases (check.call values).reply <;> simp

theorem refuses_iff : check.Refuses asyncErrorMessage values visibility message ↔
    check.isActive values visibility = true ∧
      check.complaint? asyncErrorMessage values = some message := by
  have asked : (check.call values).reply =
      check.function (values.value check.field :: check.companions.map values.value) := rfl
  rw [isActive, Bool.and_eq_true, Bool.not_eq_true', complaint?, asked]
  constructor
  · rintro ⟨shown, filled, ⟨⟨fault, fails⟩, rfl⟩ | ⟨⟨answer, answers, no⟩, rfl⟩⟩
    · exact ⟨⟨shown, filled⟩, by rw [fails]⟩
    · exact ⟨⟨shown, filled⟩, by rw [answers]; simp [no]⟩
  · rintro ⟨⟨shown, filled⟩, complains⟩
    refine ⟨shown, filled, ?_⟩
    split at complains
    next fault fails => exact .inl ⟨⟨fault, fails⟩, (Option.some.inj complains).symm⟩
    next answer answers =>
      cases truthy : answer.truthy with
      | true => simp [truthy] at complains
      | false =>
          simp only [truthy, Bool.false_eq_true, if_false, Option.some.injEq] at complains
          exact .inr ⟨⟨answer, answers, truthy⟩, complains.symm⟩

end AsyncCheck

end Formwork
