import Formwork.Proofs.Names
import Formwork.Proofs.Ruleset.Phases

/-! # Messages of checks over several fields

A check over several fields that refuses the values speaks against each of its targets. What a
field is told is what the checks that refuse it say, in the order of the checks, and nothing twice.
-/

namespace Formwork

variable {values : Entries Value} {visibility : Option Visibility} {name message : String}

/-! ## Told once -/

namespace Errors

def messages (errors : Errors) (name : String) : List String :=
  (Entries.get? errors name).getD []

variable {errors : Errors} {key text : String} {targets told : List String}

theorem messages_addOnce : (errors.addOnce key text).messages name =
    if key = name then
      if text ∈ errors.messages name then errors.messages name else errors.messages name ++ [text]
    else errors.messages name := by
  unfold messages addOnce
  rw [Entries.get?_put]
  by_cases same : key = name
  · subst same
    simp only [if_true, Option.getD_some, List.contains_iff_mem]
  · simp only [same, if_false]

theorem messages_addToAll : (errors.addToAll targets text).messages name =
    if name ∈ targets ∧ text ∉ errors.messages name then errors.messages name ++ [text]
    else errors.messages name := by
  unfold addToAll
  induction targets generalizing errors with
  | nil => simp
  | cons key rest ih =>
      rw [List.foldl_cons, ih, messages_addOnce]
      by_cases same : key = name
      · subst same
        by_cases known : text ∈ errors.messages key <;> simp [known]
      · simp [same, Ne.symm same]

theorem messages_addToAll_of_distinct (known : errors.messages name = Names.distinct told) :
    (errors.addToAll targets text).messages name =
      Names.distinct (told ++ if name ∈ targets then [text] else []) := by
  simp only [messages_addToAll, known, Names.mem_distinct]
  by_cases target : name ∈ targets
  · simp only [target, true_and, if_true, Names.distinct_concat, ite_not]
  · simp only [target, false_and, if_false, List.append_nil]

theorem nodup_addToAll (distinct : (Entries.names errors).Nodup) :
    (Entries.names (errors.addToAll targets text)).Nodup := by
  unfold addToAll
  induction targets generalizing errors with
  | nil => exact distinct
  | cons key rest ih => exact ih (Entries.nodup_put distinct key _)

end Errors

/-! ## One check -/

namespace CrossFieldCheck

variable {check : CrossFieldCheck}

theorem get?_restricted : (check.restricted values).get? name =
    if name ∈ check.targets then some (values.value name) else none := by
  have listed : Entries.names (check.targets.map fun name => (name, values.value name)) =
      check.targets := by simp [Entries.names, Function.comp_def]
  rw [restricted, Entries.ofList]
  split
  next target =>
    obtain ⟨value, member, reads⟩ := Entries.get?_putAll_of_mem (listed.symm ▸ target) []
    obtain ⟨field, -, same⟩ := List.mem_map.mp member
    cases same
    exact reads
  next other =>
    rw [Entries.get?_putAll_of_not_mem (listed.symm ▸ other)]
    rfl

theorem messages_run {found : Findings} {told : List String}
    (known : found.errors.messages name = Names.distinct told) :
    (check.run values visibility found).errors.messages name =
      Names.distinct (told ++ if check.Refuses values visibility name then [check.message]
        else []) := by
  rw [run_errors]
  simp only [refuses_iff]
  cases check.isActive visibility with
  | false => simpa using known
  | true =>
      cases complains : check.complaint? values with
      | none => simpa using known
      | some text =>
          obtain ⟨-, rfl⟩ := complaint?_eq_some_iff.mp complains
          simpa using Errors.messages_addToAll_of_distinct known

theorem nodup_run {found : Findings} (distinct : (Entries.names found.errors).Nodup) :
    (Entries.names (check.run values visibility found).errors).Nodup := by
  rw [run_errors]
  split
  · cases check.complaint? values with
    | none => exact distinct
    | some text => exact Errors.nodup_addToAll distinct
  · exact distinct

end CrossFieldCheck

/-! ## The phase -/

namespace Ruleset

variable {rules : Ruleset}

/-- What the checks that refuse the values of a field say, in their order. -/
def refusals (checks : List CrossFieldCheck) (values : Entries Value)
    (visibility : Option Visibility) (name : String) : List String :=
  (checks.filter fun check => decide (check.Refuses values visibility name)).map (·.message)

theorem messages_foldl_run (checks : List CrossFieldCheck) :
    (checks.foldl (CrossFieldCheck.run values visibility) {}).errors.messages name =
      Names.distinct (refusals checks values visibility name) := by
  induction checks using List.reverseRecOn with
  | nil => rfl
  | append_singleton checks check ih =>
      rw [List.foldl_concat, CrossFieldCheck.messages_run ih]
      congr 1
      simp only [refusals, List.filter_append, List.map_append, List.filter_singleton]
      by_cases refuses : check.Refuses values visibility name <;> simp [refuses]

theorem messages_checkCrossField (rules : Ruleset) :
    (rules.checkCrossField values visibility).errors.messages name =
      Names.distinct (refusals rules.crossField values visibility name) :=
  messages_foldl_run rules.crossField

theorem nodup_checkCrossField (rules : Ruleset) :
    (Entries.names (rules.checkCrossField values visibility).errors).Nodup := by
  refine List.foldlRecOn (motive := fun found : Findings => (Entries.names found.errors).Nodup)
    rules.crossField _ List.nodup_nil ?_
  exact fun _ distinct _ _ => CrossFieldCheck.nodup_run distinct

theorem mem_refusals {checks : List CrossFieldCheck} :
    message ∈ refusals checks values visibility name ↔
      ∃ check ∈ checks, check.Refuses values visibility name ∧ check.message = message := by
  simp [refusals, and_assoc]

/-- The place of the first check that refuses the values of a field with a message. -/
def firstRefusal (checks : List CrossFieldCheck) (values : Entries Value)
    (visibility : Option Visibility) (name message : String) : Nat :=
  checks.findIdx fun check =>
    decide (check.Refuses values visibility name ∧ check.message = message)

theorem refusals_cons (check : CrossFieldCheck) (rest : List CrossFieldCheck) :
    refusals (check :: rest) values visibility name =
      if check.Refuses values visibility name then
        check.message :: refusals rest values visibility name
      else refusals rest values visibility name := by
  by_cases refuses : check.Refuses values visibility name <;> simp [refusals, refuses]

theorem firstRefusal_cons (check : CrossFieldCheck) (rest : List CrossFieldCheck) :
    firstRefusal (check :: rest) values visibility name message =
      if check.Refuses values visibility name ∧ check.message = message then 0
      else firstRefusal rest values visibility name message + 1 := by
  simp only [firstRefusal, List.findIdx_cons, cond_eq_ite, decide_eq_true_eq]

theorem firstRefusal_lt_of_idxOf_lt {checks : List CrossFieldCheck} {first second : String}
    (before : (refusals checks values visibility name).idxOf first <
      (refusals checks values visibility name).idxOf second) :
    firstRefusal checks values visibility name first <
      firstRefusal checks values visibility name second := by
  induction checks with
  | nil => exact absurd before (Nat.lt_irrefl 0)
  | cons check rest ih =>
      rw [refusals_cons] at before
      rw [firstRefusal_cons, firstRefusal_cons]
      by_cases refuses : check.Refuses values visibility name
      · rw [if_pos refuses] at before
        by_cases isSecond : check.message = second
        · -- nothing is said before what the first check says
          rw [isSecond, List.idxOf_cons_self] at before
          exact absurd before (Nat.not_lt_zero _)
        · by_cases isFirst : check.message = first
          · simp [refuses, isFirst, isFirst ▸ isSecond]
          · rw [List.idxOf_cons_ne _ isFirst, List.idxOf_cons_ne _ isSecond] at before
            have later := ih (Nat.lt_of_succ_lt_succ before)
            simpa [isFirst, isSecond] using later
      · rw [if_neg refuses] at before
        simpa [refuses] using ih before

/-- The errors of the checks over several fields: each field once, with the messages of the checks
    that refuse its values, each once and where the first of these checks stands. A validator is
    asked about the values of its targets and no others. -/
theorem crossField_messages (rules : Ruleset) (values : Entries Value)
    (visibility : Option Visibility) :
    let errors := (rules.checkCrossField values visibility).errors
    (Entries.names errors).Nodup ∧
    (∀ name, errors.get? name ≠ some [] ∧
      (∀ message, message ∈ errors.messages name ↔ ∃ check ∈ rules.crossField,
        check.Refuses values visibility name ∧ check.message = message) ∧
      (errors.messages name).Nodup ∧
      (errors.messages name).Pairwise fun first second =>
        firstRefusal rules.crossField values visibility name first <
          firstRefusal rules.crossField values visibility name second) ∧
    ∀ (check : CrossFieldCheck) (target : String), (check.restricted values).get? target =
      if target ∈ check.targets then some (values.value target) else none := by
  intro errors
  have told : errors.Told :=
    (CrossFieldCheck.run_collects values visibility).told_foldl rules.crossField fun _ => nofun
  refine ⟨nodup_checkCrossField rules, fun name => ⟨told name, ?_⟩,
    fun check target => CrossFieldCheck.get?_restricted⟩
  rw [messages_checkCrossField]
  refine ⟨fun message => ?_, Names.nodup_distinct _, ?_⟩
  · rw [Names.mem_distinct, mem_refusals]
  · exact (Names.pairwise_idxOf_distinct _).imp firstRefusal_lt_of_idxOf_lt

/-- A pet whose checks name a field twice, share a message, cannot be made, or belong to a field
    that is not shown. -/
def petChecks : Ruleset where
  fields := []
  crossField :=
    let never : CrossFieldValidator := fun _ _ => .answers .null
    [{ owner := "name", fields := [], validator := "isKnown", message := "Not known"
       function := fun values _ => .ofBool (values.has "owner") },
     { owner := "name", fields := ["owner", "name", "owner"], validator := "never"
       message := "Not allowed", function := never },
     { owner := "owner", fields := ["name"], validator := "never", message := "Not known"
       function := never },
     { owner := "name", fields := ["vet"], validator := "never", message := "Not cured"
       function := never },
     { owner := "name", fields := ["chip"], validator := "isRead", message := "Not read"
       function := fun _ _ => .fails { kind := "OSError", message := "" } }]

theorem petChecks_messages :
    (petChecks.checkCrossField [("name", .str "Rex")] (some [("vet", false)])).errors =
      [("name", ["Not known", "Not allowed"]), ("owner", ["Not allowed"])] ∧
    firstRefusal petChecks.crossField [("name", .str "Rex")] (some [("vet", false)]) "name"
        "Not known" <
      firstRefusal petChecks.crossField [("name", .str "Rex")] (some [("vet", false)]) "name"
        "Not allowed" := by
  have told := (crossField_messages petChecks [("name", .str "Rex")] (some [("vet", false)])).2.1
    "name"
  have inOrder : List.Pairwise _ ["Not known", "Not allowed"] := told.2.2.2
  exact ⟨rfl, List.rel_of_pairwise_cons inOrder (List.mem_singleton_self _)⟩

end Ruleset

end Formwork
