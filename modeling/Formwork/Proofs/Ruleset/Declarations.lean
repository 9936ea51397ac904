import Formwork.Proofs.Condition.Document
import Formwork.Proofs.Form.Serving
import Formwork.Proofs.Names
import Formwork.Proofs.Ruleset.Sections
import Formwork.Proofs.Workspace.Settling

/-! # Names that are declared again

A form may declare a name more than once. Its ruleset, the conditions of its fields and the map of
its tracker are each put together in a way of their own, and still they agree: there is one entry
for a name, in the place of its first declaration, and what the entry says is what the last
declaration says. The declarations before that leave no trace.
-/

namespace Formwork

namespace Entries

variable {α : Type}

theorem names_ofList (pairs : Entries α) : (ofList pairs).names = Names.distinct pairs.names := by
  induction pairs using List.reverseRecOn with
  | nil => rfl
  | append_singleton pairs entry ih =>
      have last : ofList (pairs ++ [entry]) = (ofList pairs).put entry.1 entry.2 := by
        simp [ofList, putAll, List.foldl_append]
      have names : Entries.names (pairs ++ [entry]) = Entries.names pairs ++ [entry.1] := by
        simp [Entries.names]
      simp only [last, names_put, names, Names.distinct_concat, ih, Names.mem_distinct]

theorem map_snd_eq_filterMap {entries : Entries α} (distinct : entries.names.Nodup) :
    entries.map (·.2) = entries.names.filterMap entries.get? := by
  have reads : ∀ entry ∈ entries, (entries.get? ∘ Prod.fst) entry = some entry.2 :=
    fun _ member => get?_of_mem distinct member
  rw [names, List.filterMap_map, List.filterMap_congr reads, List.filterMap_eq_map']

end Entries

theorem Visibility.names_all (fields : List Field) :
    (all fields).names = Names.distinct (fields.map (·.name)) := by
  rw [all, Entries.names_ofList]
  simp [Entries.names, Function.comp_def]

namespace Tracker

variable {fields : List Field} {tracker : Tracker}

theorem Serves.names (serves : tracker.Serves fields) :
    tracker.map.names = (Visibility.all fields).names := by
  induction serves with
  | new => rfl
  | other _ _ _ _ ih => exact ih
  | @cycle tracker serves affected values ih =>
      rw [← ih]
      apply Cycle.names_settle
      · rw [serves.conditions]
        exact serves.fits
      · rw [serves.conditions]
        exact Conditions.nodup_ofFields fields

end Tracker

namespace Ruleset

variable {options : CompileOptions}

theorem exists_compile_field_iff (field : Field) :
    (∃ check, field.compile options = .ok check) ↔
      ∃ pattern, field.compilePattern options.characters = .ok pattern := by
  cases pattern : field.compilePattern options.characters <;>
    simp [Field.compile, pattern, Except.map]

theorem exists_compileFields_iff (fields : List Field) :
    (∃ checks, compileFields options fields = .ok checks) ↔
      ∀ field ∈ fields, ∃ pattern, field.compilePattern options.characters = .ok pattern := by
  induction fields with
  | nil => simp [compileFields]
  | cons field rest ih =>
      rw [List.forall_mem_cons, ← ih, ← exists_compile_field_iff]
      constructor
      · rintro ⟨checks, compiled⟩
        obtain ⟨check, others, one, more, -⟩ := compileFields_cons compiled
        exact ⟨⟨check, one⟩, others, more⟩
      · rintro ⟨⟨check, one⟩, others, more⟩
        refine ⟨check :: others, ?_⟩
        rw [compileFields, one, more]
        rfl

end Ruleset

namespace Schema

variable {options : CompileOptions} {schema : Schema} {rules : Ruleset} {tracker : Tracker}

theorem effectiveFields_eq (schema : Schema) :
    schema.effectiveFields = (Names.distinct schema.fieldNames).filterMap schema.field? := by
  have names : Entries.names (schema.fields.map fun field => (field.name, field)) =
      schema.fieldNames := by
    simp [Entries.names, fieldNames]
  have reads : Entries.get? (Entries.ofList (schema.fields.map fun field => (field.name, field))) =
      schema.field? :=
    funext (Field.get?_ofList schema.fields)
  rw [effectiveFields, Entries.map_snd_eq_filterMap (Entries.nodup_ofList _), Entries.names_ofList,
    names, reads]

theorem field?_of_mem_effectiveFields {field : Field} (member : field ∈ schema.effectiveFields) :
    schema.field? field.name = some field := by
  rw [effectiveFields_eq] at member
  obtain ⟨name, -, declared⟩ := List.mem_filterMap.mp member
  rwa [Field.name_of_last? declared]

theorem map_name_effectiveFields (schema : Schema) :
    schema.effectiveFields.map (·.name) = Names.distinct schema.fieldNames := by
  rw [effectiveFields_eq, List.map_filterMap]
  have named : ∀ name ∈ Names.distinct schema.fieldNames,
      (schema.field? name).map (·.name) = some name := by
    intro name listed
    have declared : (Field.last? schema.fields name).isSome = true :=
      Field.last?_isSome_iff.mpr (Names.mem_distinct.mp listed)
    obtain ⟨field, declared⟩ := Option.isSome_iff_exists.mp declared
    have same : schema.field? name = some field := declared
    rw [same, Option.map_some, Field.name_of_last? declared]
  rw [List.filterMap_congr named, List.filterMap_some]

/-- A ruleset and a tracker of a schema resolve every name as the schema does. -/
structure NamesAgree (options : CompileOptions) (schema : Schema) (rules : Ruleset)
    (tracker : Tracker) : Prop where
  /-- There is one entry for a name, in the order of the first declarations. -/
  listed : rules.fieldNames = Names.distinct schema.fieldNames
  mapped : tracker.map.names = rules.fieldNames
  /-- The field of a name that is checked is the last one declared. -/
  checked : ∀ check ∈ rules.fields, schema.field? check.name = some check.field
  conditional : ∀ name c, tracker.conditions.get? name = some c ↔
    ∃ field, schema.field? name = some field ∧ field.condition = some c
  /-- A pass that evaluates some fields shows those as the conditions of the last ones declared
      answer. A field is shown for good if the last one declared has no condition. -/
  evaluated : ∀ name field, schema.field? name = some field → ∀ pending values,
    (Cycle.pass tracker.conditions { map := tracker.map, values, pending }).map.get? name =
      match field.condition with
      | some c => if name ∈ pending then some (c.holds values) else tracker.map.get? name
      | none => some true
  crossField : rules.crossField = rules.fieldNames.filterMap fun name =>
    (schema.field? name).bind (·.crossFieldCheck? options)
  async : rules.async = rules.fieldNames.filterMap fun name =>
    (schema.field? name).bind (·.asyncCheck? options)
  watched : ∀ name, name ∈ tracker.conditions.watched ↔ schema.Watches name
  affected : ∀ name changed, name ∈ tracker.conditions.affectedBy changed ↔
    ∃ field c, schema.field? name = some field ∧ field.condition = some c ∧
      ∃ other ∈ c.references, other ∈ changed

theorem namesAgree_of_compile (compiled : Ruleset.compile options schema = .ok rules)
    (serves : tracker.Serves schema.fields) : NamesAgree options schema rules tracker := by
  obtain ⟨fields, crossField, async, -⟩ := Ruleset.compile_parts compiled
  have listed : rules.fieldNames = Names.distinct schema.fieldNames :=
    (Ruleset.names_of_compileFields fields).trans (map_name_effectiveFields schema)
  have mapped : tracker.map.names = Names.distinct schema.fieldNames :=
    serves.names.trans (Visibility.names_all schema.fields)
  have distinct : tracker.conditions.names.Nodup := by
    rw [serves.conditions]
    exact Conditions.nodup_ofFields schema.fields
  have conditional : ∀ name c, tracker.conditions.get? name = some c ↔
      ∃ field, schema.field? name = some field ∧ field.condition = some c := by
    intro name c
    rw [serves.conditions, get?_conditions, Option.bind_eq_some_iff]
  have member : ∀ name c, (name, c) ∈ tracker.conditions ↔
      ∃ field, schema.field? name = some field ∧ field.condition = some c := by
    intro name c
    rw [← conditional, Entries.get?_eq_some_iff distinct]
  refine ⟨listed, mapped.trans listed.symm, ?checked, conditional, ?evaluated, ?crossField, ?async,
    ?watched, ?affected⟩
  case checked =>
    intro check among
    apply field?_of_mem_effectiveFields
    rw [← Ruleset.fields_of_compileFields fields]
    exact List.mem_map_of_mem among
  case evaluated =>
    intro name field declared pending values
    show Entries.get? (tracker.conditions.reevaluate pending values tracker.map) name = _
    rw [Conditions.get?_reevaluate distinct, serves.conditions, get?_conditions, declared,
      Option.bind_some]
    cases has : field.condition with
    | some c => rfl
    | none =>
        have known : name ∈ tracker.map.names := by
          rw [mapped, Names.mem_distinct]
          exact Field.last?_isSome_iff.mp (Option.isSome_iff_exists.mpr ⟨field, declared⟩)
        apply serves.fits.shown name known
        rw [← Entries.get?_eq_none_iff, get?_conditions, declared, Option.bind_some, has]
  case crossField => rw [crossField, effectiveFields_eq, listed, List.filterMap_filterMap]
  case async => rw [async, effectiveFields_eq, listed, List.filterMap_filterMap]
  case watched =>
    intro name
    simp only [Conditions.watched, Names.mem_distinct, List.mem_flatMap, Prod.exists, member,
      Watches]
    grind
  case affected =>
    intro name changed
    simp only [Conditions.mem_affectedBy, member]
    grind

theorem exists_compile_iff : (∃ rules, Ruleset.compile options schema = .ok rules) ↔
    ∀ name field, schema.field? name = some field →
      ∃ pattern, field.compilePattern options.characters = .ok pattern := by
  have whole : (∃ rules, Ruleset.compile options schema = .ok rules) ↔
      ∃ checks, Ruleset.compileFields options schema.effectiveFields = .ok checks := by
    constructor
    · rintro ⟨rules, compiled⟩
      exact ⟨rules.fields, (Ruleset.compile_parts compiled).1⟩
    · rintro ⟨checks, compiled⟩
      obtain ⟨rules, compiled, -⟩ := Ruleset.compile_of_fields compiled
      exact ⟨rules, compiled⟩
  rw [whole, Ruleset.exists_compileFields_iff]
  constructor
  · intro each name field declared
    exact each field (mem_effectiveFields declared)
  · intro each field member
    exact each field.name field (field?_of_mem_effectiveFields member)

/-- A schema whose fields repeat names has a ruleset if the patterns of the last declarations allow
    it, and whenever it has one, that and every tracker of the fields resolve names as it does. -/
theorem names_agree (options : CompileOptions) (schema : Schema) :
    ((∃ rules, Ruleset.compile options schema = .ok rules) ↔
      ∀ name field, schema.field? name = some field →
        ∃ pattern, field.compilePattern options.characters = .ok pattern) ∧
    ∀ rules tracker, Ruleset.compile options schema = .ok rules →
      tracker.Serves schema.fields → NamesAgree options schema rules tracker :=
  ⟨exists_compile_iff, fun _ _ => namesAgree_of_compile⟩

/-- A form whose sections declare each other's names again: a code with a pattern that cannot be
    dealt with, with a condition and with neither, and a kind with a condition and a check over
    several fields, and with another condition and an asynchronous check. -/
def repeatedForm : Schema :=
  { title := "Pet"
    body := .stepped [
      { title := "First"
        fields := [
          { name := "code", rules := { required := true, pattern := some "a{99999999999}" } },
          { name := "kind", condition := some Condition.petIsYes
            rules := {
              crossField := some { fields := ["code"], validator := "passwordsMatch" } } }] },
      { title := "Second"
        fields := [{ name := "code", condition := some Condition.petIsYes }, { name := "pet" }] },
      { title := "Third"
        fields := [
          { name := "kind"
            condition := some { Condition.petIsYes with operator := some "isNotEmpty" }
            rules := { async := some { validator := "isFree", companions := ["pet"] } } },
          { name := "code" }] }] }

def repeatedOptions : CompileOptions :=
  { crossField := Builtin.crossField, async := [("isFree", fun _ => .answers (.bool true))] }

def repeatedRules : Ruleset :=
  (Ruleset.compile repeatedOptions repeatedForm).toOption.getD default

/-- The tracker of the form after its first cycle over a store with a pet. -/
def repeatedTracker : Tracker :=
  { Tracker.ofFields 0 repeatedForm.fields with
    map := ((Tracker.ofFields 0 repeatedForm.fields).cycle ["kind"] [("pet", .str "no")]).map }

theorem repeatedForm_names_agree :
    Ruleset.compile repeatedOptions repeatedForm = .ok repeatedRules ∧
      repeatedTracker.Serves repeatedForm.fields ∧
      NamesAgree repeatedOptions repeatedForm repeatedRules repeatedTracker ∧
      repeatedRules.fieldNames = ["code", "kind", "pet"] := by
  have compiled : Ruleset.compile repeatedOptions repeatedForm = .ok repeatedRules := rfl
  have serves : repeatedTracker.Serves repeatedForm.fields := .cycle (.new 0) _ _
  have agree := (names_agree repeatedOptions repeatedForm).2 _ _ compiled serves
  exact ⟨compiled, serves, agree, by decide +kernel⟩

end Schema

end Formwork
