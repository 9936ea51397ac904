import Formwork.Proofs.Ruleset.Validation
import Formwork.Proofs.Steps.Sequence

/-! # Sections

A form in sections with distinct names compiles to what its sections compile to, one after the
other. So to validate it at once is to validate each section by itself, with the same values and
the same fields shown: the whole finds something wanting if and only if a part does, and the first
phase of the whole finds the errors of the parts, each of them by one part only.

None of this depends on how a single field is checked. A host may bring types with checks of their
own, so these are any function of a compiled field and the values.
-/

namespace Formwork

variable {options : CompileOptions} {schema : Schema} {rules : Ruleset}
  {values : Entries Value} {visibility : Option Visibility}

namespace Schema

theorem effectiveFields_of_nodup (distinct : schema.fieldNames.Nodup) :
    schema.effectiveFields = schema.fields := by
  have names : Entries.names (schema.fields.map fun field => (field.name, field)) =
      schema.fieldNames := by
    simp [Entries.names, fieldNames]
  rw [effectiveFields, Entries.ofList_of_nodup (names ▸ distinct), List.map_map]
  exact List.map_id _

theorem effectiveFields_ofSection {step : Section} (distinct : step.names.Nodup) :
    (schema.ofSection step).effectiveFields = step.fields := by
  rw [effectiveFields_of_nodup (by rwa [ofSection_fieldNames]), ofSection_fields]

theorem fields_flatMap (stepped : schema.isMultiStep = true) :
    schema.fields = schema.sections.flatMap (·.fields) := by
  unfold isMultiStep sections at stepped
  unfold fields sections
  cases same : schema.body with
  | flat => simp [same] at stepped
  | stepped steps => rfl

theorem sectionSchema?_of_getElem? {i : Nat} {step : Section}
    (listed : schema.sections[i]? = some step) :
    schema.sectionSchema? i = some (schema.ofSection step) := by
  have forward : ¬(i : Int) < 0 := Int.not_lt.mpr (Int.natCast_nonneg i)
  rw [sectionSchema?]
  simp only [if_neg forward, Int.toNat_natCast, listed, Option.map_some]

end Schema

namespace Ruleset

/-! ## Compiling part by part -/

theorem compileFields_append {first second : List Field} {checks : List CompiledField}
    (compiled : compileFields options (first ++ second) = .ok checks) :
    ∃ front back, compileFields options first = .ok front ∧
      compileFields options second = .ok back ∧ checks = front ++ back := by
  induction first generalizing checks with
  | nil => exact ⟨[], checks, rfl, compiled, rfl⟩
  | cons field rest ih =>
      obtain ⟨check, others, one, more, rfl⟩ := compileFields_cons compiled
      obtain ⟨front, back, before, after, rfl⟩ := ih more
      refine ⟨check :: front, back, ?_, after, rfl⟩
      rw [compileFields, one, before]
      rfl

theorem fields_of_compileFields {fields : List Field} {checks : List CompiledField}
    (compiled : compileFields options fields = .ok checks) : checks.map (·.field) = fields := by
  induction fields generalizing checks with
  | nil =>
      cases compiled
      rfl
  | cons field rest ih =>
      obtain ⟨check, others, one, more, rfl⟩ := compileFields_cons compiled
      rw [List.map_cons, ih more, (compile_field one).1]

theorem names_of_compileFields {fields : List Field} {checks : List CompiledField}
    (compiled : compileFields options fields = .ok checks) :
    checks.map (·.name) = fields.map (·.name) := by
  rw [← fields_of_compileFields compiled, List.map_map]
  rfl

theorem compile_of_fields {checks : List CompiledField}
    (compiled : compileFields options schema.effectiveFields = .ok checks) :
    ∃ rules, compile options schema = .ok rules ∧ rules.fields = checks := by
  rw [compile, compiled]
  exact ⟨_, rfl, rfl⟩

/-- Rulesets of some sections, in their order. -/
def AreOf (options : CompileOptions) (schema : Schema) (steps : List Section)
    (parts : List Ruleset) : Prop :=
  List.Forall₂ (fun step part => compile options (schema.ofSection step) = .ok part) steps parts

theorem exists_areOf {steps : List Section} (distinct : ∀ step ∈ steps, step.names.Nodup)
    {checks : List CompiledField}
    (compiled : compileFields options (steps.flatMap (·.fields)) = .ok checks) :
    ∃ parts, AreOf options schema steps parts ∧ checks = parts.flatMap (·.fields) := by
  induction steps generalizing checks with
  | nil =>
      cases compiled
      exact ⟨[], .nil, rfl⟩
  | cons step rest ih =>
      rw [List.flatMap_cons] at compiled
      obtain ⟨front, back, own, more, rfl⟩ := compileFields_append compiled
      obtain ⟨here, later⟩ := List.forall_mem_cons.mp distinct
      obtain ⟨parts, areOf, rfl⟩ := ih later more
      -- no name repeats within the section, so all of its fields count
      have fields : (schema.ofSection step).effectiveFields = step.fields :=
        Schema.effectiveFields_ofSection here
      rw [← fields] at own
      obtain ⟨part, one, rfl⟩ := compile_of_fields own
      exact ⟨part :: parts, .cons one areOf, rfl⟩

theorem AreOf.getElem? {steps : List Section} {parts : List Ruleset}
    (areOf : AreOf options schema steps parts) {i : Nat} {part : Ruleset}
    (listed : parts[i]? = some part) :
    ∃ step, steps[i]? = some step ∧ compile options (schema.ofSection step) = .ok part := by
  induction areOf generalizing i with
  | nil => cases listed
  | cons compiled _ ih =>
      cases i with
      | zero =>
          cases listed
          exact ⟨_, rfl, compiled⟩
      | succ i => exact ih listed

theorem AreOf.filterMap_fields {β : Type} {f : Field → Option β} {g : Ruleset → List β}
    (each : ∀ {schema rules}, compile options schema = .ok rules →
      g rules = schema.effectiveFields.filterMap f)
    {steps : List Section} {parts : List Ruleset} (areOf : AreOf options schema steps parts)
    (distinct : ∀ step ∈ steps, step.names.Nodup) :
    (steps.flatMap (·.fields)).filterMap f = parts.flatMap g := by
  induction areOf with
  | nil => rfl
  | cons compiled _ ih =>
      obtain ⟨here, later⟩ := List.forall_mem_cons.mp distinct
      rw [List.flatMap_cons, List.flatMap_cons, List.filterMap_append, ih later, each compiled,
        Schema.effectiveFields_ofSection here]

/-! ## Validating part by part -/

/-- The first phase, with any way of checking a field by itself. -/
def checkFieldsBy (check : CompiledField → Entries Value → List String) (rules : Ruleset)
    (values : Entries Value) (visibility : Option Visibility) : Findings :=
  { errors := Entries.ofList (rules.wanting check values visibility) }

/-- All phases, with any way of checking a field by itself. -/
def validateBy (check : CompiledField → Entries Value → List String) (rules : Ruleset)
    (values : Entries Value) (visibility : Option Visibility) : Findings :=
  ((rules.checkFieldsBy check values visibility).andThen
    (rules.checkCrossField values visibility)).andThen (rules.checkAsync values visibility)

variable {check : CompiledField → Entries Value → List String}

theorem isClean_validateBy_iff : (rules.validateBy check values visibility).isClean = true ↔
    (∀ compiled ∈ rules.fields, isShown visibility compiled.name = true →
      check compiled values = []) ∧
      rules.CrossFieldPasses values visibility ∧ rules.AsyncPasses values visibility := by
  have first : (rules.checkFieldsBy check values visibility).isClean = true ↔
      ∀ compiled ∈ rules.fields, isShown visibility compiled.name = true →
        check compiled values = [] := by
    rw [← ofList_wanting_eq_nil_iff, Findings.isClean, List.isEmpty_iff]
    rfl
  rw [validateBy, Findings.isClean_andThen, Findings.isClean_andThen, Bool.and_eq_true,
    Bool.and_eq_true, first, checkCrossField_isClean_iff, checkAsync_isClean_iff, and_assoc]

theorem names_wanting_sublist (rules : Ruleset) :
    (Entries.names (rules.wanting check values visibility)).Sublist rules.fieldNames := by
  unfold wanting fieldNames
  induction rules.fields with
  | nil => exact .slnil
  | cons compiled rest ih =>
      rw [List.filterMap_cons]
      split
      next => exact ih.cons _
      next found =>
        split at found
        · cases found
          exact ih.cons_cons _
        · cases found

/-- Where names do not repeat, the first phase finds what each field is found wanting in. -/
theorem errors_checkFieldsBy (distinct : rules.fieldNames.Nodup) :
    (rules.checkFieldsBy check values visibility).errors =
      rules.wanting check values visibility :=
  Entries.ofList_of_nodup ((names_wanting_sublist rules).nodup distinct)

/-- A ruleset has the checks of some others, one after the other, and no more. -/
structure Comprises (rules : Ruleset) (parts : List Ruleset) : Prop where
  fields : rules.fields = parts.flatMap (·.fields)
  crossField : rules.crossField = parts.flatMap (·.crossField)
  async : rules.async = parts.flatMap (·.async)

variable {parts : List Ruleset}

theorem Comprises.isClean_iff (comprises : rules.Comprises parts) :
    (rules.validateBy check values visibility).isClean = true ↔
      ∀ part ∈ parts, (part.validateBy check values visibility).isClean = true := by
  simp only [isClean_validateBy_iff, crossFieldPasses_iff, asyncPasses_iff "",
    comprises.fields, comprises.crossField, comprises.async, List.mem_flatMap]
  constructor
  · rintro ⟨fields, crossField, async⟩ part member
    exact ⟨fun compiled among => fields compiled ⟨part, member, among⟩,
      fun check among => crossField check ⟨part, member, among⟩,
      fun check among => async check ⟨part, member, among⟩⟩
  · intro parts
    refine ⟨?_, ?_, ?_⟩
    · rintro compiled ⟨part, member, among⟩
      exact (parts part member).1 compiled among
    · rintro check ⟨part, member, among⟩
      exact (parts part member).2.1 check among
    · rintro check ⟨part, member, among⟩
      exact (parts part member).2.2 check among

theorem Comprises.wanting_eq (comprises : rules.Comprises parts) :
    rules.wanting check values visibility =
      parts.flatMap fun part => part.wanting check values visibility := by
  rw [wanting, comprises.fields, List.filterMap_flatMap]
  rfl

theorem Comprises.fieldNames_eq (comprises : rules.Comprises parts) :
    rules.fieldNames = parts.flatMap (·.fieldNames) := by
  rw [fieldNames, comprises.fields, List.map_flatMap]
  rfl

theorem Comprises.nodup_part (comprises : rules.Comprises parts)
    (distinct : rules.fieldNames.Nodup) : ∀ part ∈ parts, part.fieldNames.Nodup := by
  rw [comprises.fieldNames_eq, List.nodup_flatMap] at distinct
  exact distinct.1

theorem Comprises.errors_eq (comprises : rules.Comprises parts)
    (distinct : rules.fieldNames.Nodup) :
    (rules.checkFieldsBy check values visibility).errors =
      parts.flatMap fun part => (part.checkFieldsBy check values visibility).errors := by
  rw [errors_checkFieldsBy distinct, comprises.wanting_eq]
  apply List.flatMap_congr
  intro part member
  exact (errors_checkFieldsBy (comprises.nodup_part distinct part member)).symm

theorem Comprises.apart (comprises : rules.Comprises parts) (distinct : rules.fieldNames.Nodup) :
    parts.Pairwise fun first second =>
      List.Disjoint (first.checkFieldsBy check values visibility).errors.names
        (second.checkFieldsBy check values visibility).errors.names := by
  -- a part finds only fields of its own wanting, and no two parts have one in common
  have own := comprises.nodup_part distinct
  rw [comprises.fieldNames_eq, List.nodup_flatMap] at distinct
  refine distinct.2.imp_of_mem fun {first second} inFirst inSecond disjoint => ?_
  rw [errors_checkFieldsBy (own first inFirst), errors_checkFieldsBy (own second inSecond)]
  exact List.disjoint_of_subset_left (names_wanting_sublist first).subset
    (List.disjoint_of_subset_right (names_wanting_sublist second).subset disjoint)

/-! ## The sections of a form -/

/-- A form in sections with distinct names is compiled section by section, and it is valid if and
    only if each of its sections is. What its first phase finds is what that of each section finds,
    and no two sections find the same field wanting. -/
theorem validate_by_section (stepped : schema.isMultiStep = true)
    (unique : schema.fieldNames.Nodup) (compiled : compile options schema = .ok rules) :
    ∃ parts : List Ruleset,
      parts.length = schema.sections.length ∧
      (∀ (i : Nat) (part : Ruleset), parts[i]? = some part →
        ∃ form, schema.sectionSchema? i = some form ∧ compile options form = .ok part) ∧
      rules.fields = parts.flatMap (·.fields) ∧
      rules.crossField = parts.flatMap (·.crossField) ∧
      rules.async = parts.flatMap (·.async) ∧
      (∀ check values visibility,
        ((rules.validateBy check values visibility).outcome.valid = true ↔
          ∀ part ∈ parts, (part.validateBy check values visibility).outcome.valid = true) ∧
        (rules.checkFieldsBy check values visibility).errors =
          parts.flatMap (fun part => (part.checkFieldsBy check values visibility).errors) ∧
        parts.Pairwise fun first second =>
          List.Disjoint (first.checkFieldsBy check values visibility).errors.names
            (second.checkFieldsBy check values visibility).errors.names) ∧
      ∀ (part : Ruleset) (values : Entries Value) (visibility : Option Visibility),
        part.validateBy CompiledField.check values visibility =
            part.validate values visibility ∧
          part.checkFieldsBy CompiledField.check values visibility =
            part.checkFields values visibility := by
  obtain ⟨checks, crossField, async, -⟩ := compile_parts compiled
  have names := names_of_compileFields checks
  -- the last declaration of a name is its only one
  rw [Schema.effectiveFields_of_nodup unique] at checks crossField async names
  have each : ∀ step ∈ schema.sections, step.names.Nodup := by
    rw [Schema.names_flatMap stepped, List.nodup_flatMap] at unique
    exact unique.1
  rw [Schema.fields_flatMap stepped] at checks crossField async
  obtain ⟨parts, areOf, fields⟩ : ∃ parts, AreOf options schema schema.sections parts ∧
      rules.fields = parts.flatMap (·.fields) := exists_areOf each checks
  have comprises : rules.Comprises parts :=
    { fields
      crossField := crossField.trans
        (areOf.filterMap_fields (fun compiled => (compile_parts compiled).2.1) each)
      async := async.trans
        (areOf.filterMap_fields (fun compiled => (compile_parts compiled).2.2.1) each) }
  have distinct : rules.fieldNames.Nodup := by
    rw [fieldNames, names]
    exact unique
  refine ⟨parts, areOf.length_eq.symm, ?_, comprises.fields, comprises.crossField,
    comprises.async, ?_, fun part values visibility => ⟨rfl, rfl⟩⟩
  · intro i part listed
    obtain ⟨step, at_i, one⟩ := areOf.getElem? listed
    exact ⟨_, Schema.sectionSchema?_of_getElem? at_i, one⟩
  · intro check values visibility
    exact ⟨comprises.isClean_iff, comprises.errors_eq distinct, comprises.apart distinct⟩

/-! ## A form in two sections, for instance -/

/-- A form about a pet and the chip it has. -/
def chipSteps : Schema where
  title := "Pet"
  body := .stepped
    [{ title := "Pet"
       fields := [{ name := "pet", rules := { required := true } }] },
     { title := "Chip"
       fields :=
         [{ name := "chip", type := "code"
            rules := { async := some { validator := "isKnown", companions := ["pet"] } } },
          { name := "owner"
            rules := { crossField := some { fields := [], validator := "isNamed" } } }] }]

/-- The host has a type of its own for chips. -/
def chipOptions : CompileOptions where
  crossField := [("isNamed", fun values _ => .ofBool (values.value "owner").truthy)]
  async := [("isKnown", fun arguments => .ofBool (arguments.length == 2))]
  fieldTypes := [("code", { name := "code", shape := .number })]

def chipRules : Ruleset := ((compile chipOptions chipSteps).toOption).getD { fields := [] }

theorem chipRules_validate_by_section :
    compile chipOptions chipSteps = .ok chipRules ∧
      chipRules.fieldNames = ["pet", "chip", "owner"] ∧
      (chipRules.validate [("pet", .str "Rex"), ("chip", .int 7)] none).errors =
        [("owner", ["Validation failed for owner"])] ∧
      ∃ parts : List Ruleset, parts.length = 2 ∧
        chipRules.async = parts.flatMap (·.async) ∧
        (∃ part ∈ parts,
          (part.validate [("pet", .str "Rex"), ("chip", .int 7)] none).outcome.valid = false) ∧
        ∀ part ∈ parts, (part.validate
          [("pet", .str "Rex"), ("chip", .int 7), ("owner", .str "Ann")] none).outcome.valid =
            true := by
  have compiled : compile chipOptions chipSteps = .ok chipRules := rfl
  have stepped : chipSteps.isMultiStep = true := rfl
  obtain ⟨parts, length, -, -, -, async, together, -⟩ :=
    validate_by_section stepped (by decide) compiled
  refine ⟨compiled, rfl, rfl, parts, length, async, ?_, ?_⟩
  · by_contra accepted
    have valid : (chipRules.validate [("pet", .str "Rex"), ("chip", .int 7)] none).outcome.valid =
        true := by
      refine (together CompiledField.check _ none).1.mpr fun part member => ?_
      by_contra refused
      exact accepted ⟨part, member, Bool.eq_false_iff.mpr refused⟩
    cases valid
  · exact (together CompiledField.check _ none).1.mp rfl

end Ruleset

end Formwork
