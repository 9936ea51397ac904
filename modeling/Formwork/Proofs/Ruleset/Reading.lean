import Formwork.Proofs.Entries
import Formwork.Ruleset.Basic
import Mathlib.Data.List.Basic

/-! # What a validation reads

A validation reads the values of the fields that are shown. Beyond these it reads the value that
selects a field's options, and the values of companions, be they shown or not; and the checks of
the host's own types may read any value. Values that agree on all this are found wanting alike.
-/

namespace Formwork

variable {values later : Entries Value} {visibility : Option Visibility}

namespace Field

/-- The field whose value selects the options. -/
def controlling? (field : Field) : Option String :=
  if field.optionsMap.isSome then nonEmpty? field.dependsOn else none

/-- The options that a value of the controlling field selects. -/
def optionsAt (field : Field) (value : Value) : List String :=
  match value with
  | .str selected => ((field.optionsMap.getD []).get? selected).getD []
  | _ => []

theorem optionsFor_eq (field : Field) (values : Entries Value) :
    field.optionsFor values = match field.controlling? with
      | some name => some (field.optionsAt (values.value name))
      | none => field.options := by
  unfold optionsFor controlling? optionsAt Entries.value nonEmpty?
  cases field.dependsOn with
  | none => cases field.optionsMap <;> rfl
  | some name =>
      cases field.optionsMap with
      | none => rfl
      | some options =>
          by_cases unnamed : name = ""
          · simp [Option.filter, unnamed]
          · simp only [Option.filter, unnamed, Option.isSome_some, if_true, if_false, bne_iff_ne,
              ne_eq, not_false_eq_true, Option.getD_some]
            -- an absent value selects no options, and neither does null
            cases values.get? name with
            | none => rfl
            | some value => cases value <;> rfl

theorem optionsFor_congr {field : Field}
    (same : ∀ name, field.controlling? = some name → later.value name = values.value name) :
    field.optionsFor later = field.optionsFor values := by
  rw [optionsFor_eq, optionsFor_eq]
  cases reads : field.controlling? with
  | none => rfl
  | some name => simp only [same name reads]

end Field

namespace FieldType

theorem shape_builtin {tag : String} {check : Field → Option Pattern.Node → Value → Entries Value →
    List String} : (resolve [] tag).shape ≠ .own check := by
  have among : ∀ entry ∈ table, entry.2.shape ≠ .own check := by
    simp [table]
  have resolved : resolve [] tag = (table.get? tag).getD fallback := rfl
  rw [resolved]
  cases known : table.get? tag with
  | none => exact Shape.noConfusion
  | some type => exact among _ (Entries.mem_of_get? known)

end FieldType

/-- Values of these shapes are compared with options. -/
def Shape.offersOptions : Shape → Bool
  | .choice | .choices => true
  | _ => false

theorem Field.checkShape_congr {field : Field} {shape : Shape} {pattern : Option Pattern.Node}
    {value : Value}
    (same : ∀ name, shape.offersOptions = true → field.controlling? = some name →
      later.value name = values.value name)
    (alike : ∀ check, shape = .own check →
      check field pattern value later = check field pattern value values) :
    field.checkShape shape pattern value later = field.checkShape shape pattern value values := by
  cases shape with
  | choice =>
      have options := optionsFor_congr fun name => same name rfl
      cases value <;> simp only [checkShape, options]
  | choices =>
      have options := optionsFor_congr fun name => same name rfl
      simp only [checkShape, options]
  | plainText | text | boolean | date | list => cases value <;> rfl
  | number => rfl
  | own check => exact alike check rfl

namespace CompiledField

/-- The field whose value selects the options of a field that has a value. -/
def controlling? (compiled : CompiledField) (values : Entries Value) : Option String :=
  if compiled.type.shape.offersOptions &&
      !compiled.type.emptiness.holds (values.value compiled.name) then
    compiled.field.controlling?
  else none

/-- If the host checks the field itself, and it has a value, the check says the same of it whichever
    of two snapshots it is given. -/
def ChecksAlike (compiled : CompiledField) (later values : Entries Value) : Prop :=
  ∀ check, compiled.type.shape = .own check →
    compiled.type.emptiness.holds (values.value compiled.name) = false →
      check compiled.field compiled.pattern (values.value compiled.name) later =
        check compiled.field compiled.pattern (values.value compiled.name) values

theorem check_congr {compiled : CompiledField}
    (own : later.value compiled.name = values.value compiled.name)
    (same : ∀ name, compiled.controlling? values = some name →
      later.value name = values.value name) (alike : compiled.ChecksAlike later values) :
    compiled.check later = compiled.check values := by
  unfold check
  rw [own]
  dsimp only
  split
  next => rfl
  next filled =>
    refine Field.checkShape_congr (fun name offers reads => same name ?_) fun check isOwn =>
      alike check isOwn (Bool.not_eq_true _ ▸ filled)
    simp [controlling?, offers, filled, reads]

end CompiledField

theorem CrossFieldCheck.shown_of_isActive {check : CrossFieldCheck}
    (active : check.isActive visibility = true) {name : String} (target : name ∈ check.targets) :
    isShown visibility name = true := by
  rw [isActive, List.all_cons, Bool.and_eq_true, List.all_eq_true] at active
  unfold targets at target
  split at target
  · rw [List.mem_singleton.mp target]
    exact active.1
  · exact active.2 name target

theorem CrossFieldCheck.run_congr {check : CrossFieldCheck}
    (own : ∀ name, isShown visibility name = true → later.value name = values.value name)
    (found : Findings) :
    check.run later visibility found = check.run values visibility found := by
  by_cases active : check.isActive visibility = true
  · have restricted : check.restricted later = check.restricted values := by
      unfold restricted
      congr 1
      apply List.map_congr_left
      intro name target
      rw [own name (shown_of_isActive active target)]
    simp only [run, call, restricted]
  · simp [run, active]

theorem AsyncCheck.run_congr {check : AsyncCheck}
    (own : ∀ name, isShown visibility name = true → later.value name = values.value name)
    (same : check.isActive values visibility = true →
      ∀ name ∈ check.companions, later.value name = values.value name)
    (message : String) (found : Findings) :
    check.run message later visibility found = check.run message values visibility found := by
  have agree : check.isActive later visibility = check.isActive values visibility := by
    unfold isActive
    cases shown : isShown visibility check.field with
    | false => rfl
    | true => rw [own _ shown]
  by_cases active : check.isActive values visibility = true
  · have shown : isShown visibility check.field = true := by
      rw [isActive, Bool.and_eq_true] at active
      exact active.1
    have arguments : check.arguments later = check.arguments values := by
      unfold AsyncCheck.arguments
      rw [own _ shown, List.map_congr_left (same active)]
    simp only [run, call, agree, arguments]
  · simp [run, agree, active]

namespace Ruleset

/-- The fields that select the options of fields that are shown and have a value. -/
def selectors (rules : Ruleset) (values : Entries Value) (visibility : Option Visibility) :
    List String :=
  (rules.fields.filter fun compiled => isShown visibility compiled.name).filterMap
    (·.controlling? values)

/-- The companions of the asynchronous checks that have something to check. -/
def companions (rules : Ruleset) (values : Entries Value) (visibility : Option Visibility) :
    List String :=
  (rules.async.filter (·.isActive values visibility)).flatMap (·.companions)

/-- The fields that a validation reads on account of other fields; it comes to asynchronous
    checks only if nothing was found wanting before. -/
def readsAcross (rules : Ruleset) (values : Entries Value) (visibility : Option Visibility) :
    List String :=
  rules.selectors values visibility ++
    if (rules.validateLocal values visibility).isClean then rules.companions values visibility
    else []

theorem checkFields_congr {rules : Ruleset}
    (own : ∀ name, isShown visibility name = true → later.value name = values.value name)
    (across : ∀ name ∈ rules.selectors values visibility,
      later.value name = values.value name)
    (alike : ∀ compiled ∈ rules.fields, isShown visibility compiled.name = true →
      compiled.ChecksAlike later values) :
    rules.checkFields later visibility = rules.checkFields values visibility := by
  unfold checkFields
  dsimp only
  congr 2
  apply List.filterMap_congr
  intro compiled member
  cases shown : isShown visibility compiled.name with
  | false => rfl
  | true =>
      have check : compiled.check later = compiled.check values := by
        refine CompiledField.check_congr (own _ shown) (fun name reads => across name ?_)
          (alike compiled member shown)
        refine List.mem_filterMap.mpr ⟨compiled, ?_, reads⟩
        exact List.mem_filter.mpr ⟨member, shown⟩
      rw [check]

theorem checkCrossField_congr {rules : Ruleset}
    (own : ∀ name, isShown visibility name = true → later.value name = values.value name) :
    rules.checkCrossField later visibility = rules.checkCrossField values visibility := by
  apply List.foldl_ext
  intro found check _
  exact CrossFieldCheck.run_congr own found

theorem checkAsync_congr {rules : Ruleset}
    (own : ∀ name, isShown visibility name = true → later.value name = values.value name)
    (across : ∀ name ∈ rules.companions values visibility,
      later.value name = values.value name) :
    rules.checkAsync later visibility = rules.checkAsync values visibility := by
  apply List.foldl_ext
  intro found check member
  refine AsyncCheck.run_congr own (fun active name companion => across name ?_) _ found
  refine List.mem_flatMap.mpr ⟨check, ?_, companion⟩
  exact List.mem_filter.mpr ⟨member, active⟩

theorem validate_congr {rules : Ruleset}
    (own : ∀ name, isShown visibility name = true → later.value name = values.value name)
    (across : ∀ name ∈ rules.readsAcross values visibility,
      later.value name = values.value name)
    (alike : ∀ compiled ∈ rules.fields, isShown visibility compiled.name = true →
      compiled.ChecksAlike later values) :
    rules.validate later visibility = rules.validate values visibility := by
  have waitless : rules.validateLocal later visibility =
      rules.validateLocal values visibility := by
    rw [validateLocal, validateLocal, checkCrossField_congr own,
      checkFields_congr own (fun name reads => across name (List.mem_append_left _ reads)) alike]
  rw [validate, validate, waitless, Findings.andThen, Findings.andThen]
  by_cases clean : (rules.validateLocal values visibility).isClean = true
  · have asked : rules.companions values visibility ⊆ rules.readsAcross values visibility := by
      rw [readsAcross, if_pos clean]
      exact List.subset_append_right _ _
    rw [checkAsync_congr own fun name reads => across name (asked reads)]
  · rw [if_neg clean, if_neg clean]

end Ruleset

end Formwork
