import Formwork.Proofs.Condition.Reading
import Formwork.Proofs.Entries
import Formwork.Proofs.Names
import Formwork.Schema.Check

/-! # What checking a schema comes to

A schema is refused for names that several of its fields have, if the configuration asks for that,
or else for the first field whose condition reads the field itself. Nothing else is refused.
-/

namespace Formwork

namespace Field

/-- The condition of a field reads the field itself. -/
def ReadsItself (field : Field) : Prop := ∃ c, field.condition = some c ∧ c.Reads field.name

theorem readsItself_iff {field : Field} : field.ReadsItself ↔
    ∃ c, field.condition = some c ∧ field.name ∈ c.references := by
  simp only [ReadsItself, Condition.mem_references_iff]

instance (field : Field) : Decidable field.ReadsItself :=
  decidable_of_iff ((field.condition.any fun c => c.references.contains field.name) = true) <| by
    simp [readsItself_iff, Option.any_eq_true]

theorem holds_put_own {field : Field} (blind : ¬field.ReadsItself) {c : Condition}
    (has : field.condition = some c) (values : Entries Value) (value : Value) :
    c.holds (values.put field.name value) = c.holds values := by
  apply Condition.holds_eq_of_value
  intro name reads
  have other : field.name ≠ name := by
    rintro rfl
    exact blind (readsItself_iff.mpr ⟨c, has, reads⟩)
  rw [Entries.value, Entries.value, Entries.get?_put, if_neg other]

end Field

namespace Schema

variable {config : Config} {schema : Schema} {name : String}

/-! ## Repeated names -/

theorem mem_repeatedNames : name ∈ schema.repeatedNames ↔ 2 ≤ schema.fieldNames.count name := by
  rw [repeatedNames, (Names.perm_sorted _).mem_iff, List.mem_filter, Names.mem_distinct,
    decide_eq_true_iff]
  constructor
  · exact And.right
  · intro repeated
    exact ⟨List.count_pos_iff.mp (by omega), repeated⟩

theorem pairwise_repeatedNames (schema : Schema) : schema.repeatedNames.Pairwise (· < ·) :=
  Names.pairwise_lt_sorted ((Names.nodup_distinct _).filter _)

theorem repeatedNames_ne_nil_iff :
    schema.repeatedNames ≠ [] ↔ ∃ name, 2 ≤ schema.fieldNames.count name := by
  rw [ne_eq, List.eq_nil_iff_forall_not_mem]
  simp only [mem_repeatedNames, not_forall, not_not]

theorem nodup_fieldNames_iff :
    schema.fieldNames.Nodup ↔ ¬∃ name, 2 ≤ schema.fieldNames.count name := by
  rw [List.nodup_iff_count_le_one, not_exists]
  exact forall_congr' fun name => by omega

/-! ## Conditions of fields on themselves -/

/-- The first field in the order of declaration whose condition reads the field itself. -/
def IsFirstReadingItself (schema : Schema) (field : Field) : Prop :=
  ∃ before after, schema.fields = before ++ field :: after ∧ field.ReadsItself ∧
    ∀ other ∈ before, ¬other.ReadsItself

theorem selfReferring?_eq (schema : Schema) : schema.selfReferring? =
    (schema.fields.find? fun field => decide field.ReadsItself).map (·.name) := by
  unfold selfReferring?
  congr 2
  funext field
  rw [Bool.eq_iff_iff, decide_eq_true_iff, Field.readsItself_iff]
  cases field.condition <;> simp

theorem selfReferring?_eq_some_iff : schema.selfReferring? = some name ↔
    ∃ field, schema.IsFirstReadingItself field ∧ field.name = name := by
  rw [selfReferring?_eq, Option.map_eq_some_iff]
  refine exists_congr fun field => and_congr_left fun _ => ?_
  rw [List.find?_eq_some_iff_append]
  simp only [decide_eq_true_eq, Bool.not_eq_true', decide_eq_false_iff_not, IsFirstReadingItself]
  constructor
  · rintro ⟨reads, before, after, split, others⟩
    exact ⟨before, after, split, reads, others⟩
  · rintro ⟨before, after, split, reads, others⟩
    exact ⟨reads, before, after, split, others⟩

theorem selfReferring?_eq_none_iff : schema.selfReferring? = none ↔
    ∀ field ∈ schema.fields, ¬field.ReadsItself := by
  rw [selfReferring?_eq, Option.map_eq_none_iff, List.find?_eq_none]
  simp only [decide_eq_true_eq]

/-! ## The verdict -/

/-- The configuration rejects repeated names, and some name is repeated. -/
def RejectsNames (config : Config) (schema : Schema) : Prop :=
  config.duplicates = .reject ∧ ∃ name, 2 ≤ schema.fieldNames.count name

theorem check_of_rejectsNames (rejects : RejectsNames config schema) :
    schema.check config = .error (.duplicateFields schema.repeatedNames) := by
  have repeated := repeatedNames_ne_nil_iff.mpr rejects.2
  simp [check, rejects.1, repeated]

theorem check_of_not_rejectsNames (tolerates : ¬RejectsNames config schema) :
    schema.check config = schema.selfReferring?.elim (.ok ()) (.error ∘ .selfReference) := by
  have passes :
      ¬(!schema.repeatedNames.isEmpty && decide (config.duplicates = .reject)) = true := by
    rw [Bool.and_eq_true, Bool.not_eq_true', List.isEmpty_eq_false_iff, decide_eq_true_iff,
      repeatedNames_ne_nil_iff]
    exact fun ⟨repeated, reject⟩ => tolerates ⟨reject, repeated⟩
  rw [check, if_neg passes]
  cases schema.selfReferring? <;> rfl

theorem check_eq_duplicateFields_iff {names : List String} :
    schema.check config = .error (.duplicateFields names) ↔
      RejectsNames config schema ∧ names = schema.repeatedNames := by
  by_cases rejects : RejectsNames config schema
  · simp [check_of_rejectsNames rejects, rejects, eq_comm]
  · rw [check_of_not_rejectsNames rejects]
    cases schema.selfReferring? <;> simp [rejects]

theorem check_eq_selfReference_iff : schema.check config = .error (.selfReference name) ↔
    ¬RejectsNames config schema ∧ schema.selfReferring? = some name := by
  by_cases rejects : RejectsNames config schema
  · simp [check_of_rejectsNames rejects, rejects]
  · rw [check_of_not_rejectsNames rejects]
    cases schema.selfReferring? <;> simp [rejects]

theorem check_eq_ok_iff : schema.check config = .ok () ↔
    ¬RejectsNames config schema ∧ schema.selfReferring? = none := by
  by_cases rejects : RejectsNames config schema
  · simp [check_of_rejectsNames rejects, rejects]
  · rw [check_of_not_rejectsNames rejects]
    cases schema.selfReferring? <;> simp [rejects]

/-- A schema is refused for its repeated names if and only if there are any and the configuration
    rejects them, and otherwise for its first field whose condition reads the field itself, and in
    no other case. So where the configuration rejects repeated names, the fields of a schema that
    is accepted have distinct names and conditions that do not depend on the fields' own values. -/
theorem check_verdict (config : Config) (schema : Schema) :
    ((∃ names, schema.check config = .error (.duplicateFields names)) ↔
      config.duplicates = .reject ∧ ∃ name, 2 ≤ schema.fieldNames.count name) ∧
    (∀ names, schema.check config = .error (.duplicateFields names) →
      names.Pairwise (· < ·) ∧ ∀ name, name ∈ names ↔ 2 ≤ schema.fieldNames.count name) ∧
    (∀ name, schema.check config = .error (.selfReference name) ↔
      ¬(config.duplicates = .reject ∧ ∃ other, 2 ≤ schema.fieldNames.count other) ∧
        ∃ field, schema.IsFirstReadingItself field ∧ field.name = name) ∧
    (schema.check config = .ok () ↔
      ¬(config.duplicates = .reject ∧ ∃ name, 2 ≤ schema.fieldNames.count name) ∧
        ∀ field ∈ schema.fields, ¬field.ReadsItself) ∧
    (config.duplicates = .reject → schema.check config = .ok () →
      schema.fieldNames.Nodup ∧ ∀ field ∈ schema.fields, ¬field.ReadsItself ∧
        ∀ c, field.condition = some c → ∀ values value,
          c.holds (values.put field.name value) = c.holds values) := by
  refine ⟨?_, fun names refused => ?_, fun name => ?_, ?_, fun reject accepted => ?_⟩
  · simp only [check_eq_duplicateFields_iff, exists_and_left, exists_eq, and_true]
    rfl
  · obtain ⟨-, rfl⟩ := check_eq_duplicateFields_iff.mp refused
    exact ⟨pairwise_repeatedNames schema, fun name => mem_repeatedNames⟩
  · rw [check_eq_selfReference_iff, selfReferring?_eq_some_iff]
    rfl
  · rw [check_eq_ok_iff, selfReferring?_eq_none_iff]
    rfl
  · obtain ⟨tolerates, silent⟩ := check_eq_ok_iff.mp accepted
    have blind := selfReferring?_eq_none_iff.mp silent
    refine ⟨nodup_fieldNames_iff.mpr fun repeated => tolerates ⟨reject, repeated⟩, ?_⟩
    exact fun field member =>
      ⟨blind field member, fun c => Field.holds_put_own (blind field member)⟩

/-- A form with fields of some names and one for a leash. The condition of the leash is a
    combination that names the leash, which it does not read, with a leaf inside that does read the
    field of the given name. -/
def leashForm (names : List String) (read : String) : Schema :=
  let leaf (name : String) : Condition :=
    { field := some name, operator := some "isNotEmpty", value := .null, equals := none
      conditions := some [], combinator := none }
  let condition : Condition :=
    { leaf "leash" with
      conditions := some [{ leaf "" with conditions := some [leaf read] }, leaf ""] }
  { title := "Leash"
    body := .stepped [
      { title := "First", fields := names.map fun name => { name } },
      { title := "Second", fields := [{ name := "leash", condition := some condition }] }] }

theorem leashForm_verdict :
    (leashForm ["pet"] "pet").check {} = .ok () ∧
    (leashForm ["pet"] "pet").fieldNames.Nodup ∧
    (leashForm ["pet", "leash", "pet"] "leash").check {} =
      .error (.duplicateFields ["leash", "pet"]) ∧
    ["leash", "pet"].Pairwise (· < ·) ∧
    (leashForm ["pet", "leash", "pet"] "leash").check { duplicates := .lastWins } =
      .error (.selfReference "leash") := by
  have accepted : (leashForm ["pet"] "pet").check {} = .ok () := by decide +kernel
  have repeated : (leashForm ["pet", "leash", "pet"] "leash").repeatedNames = ["leash", "pet"] := by
    show Names.sorted ["pet", "leash"] = _
    rw [Names.sorted_eq_of_perm (.swap "leash" "pet" [])]
    exact List.mergeSort_of_pairwise (by decide)
  have refused : (leashForm ["pet", "leash", "pet"] "leash").check {} =
      .error (.duplicateFields ["leash", "pet"]) :=
    check_eq_duplicateFields_iff.mpr ⟨⟨rfl, "pet", by decide +kernel⟩, repeated.symm⟩
  have itself : (leashForm ["pet", "leash", "pet"] "leash").check { duplicates := .lastWins } =
      .error (.selfReference "leash") :=
    check_eq_selfReference_iff.mpr ⟨by simp [RejectsNames], by decide +kernel⟩
  obtain ⟨-, -, -, -, distinct⟩ := check_verdict {} (leashForm ["pet"] "pet")
  obtain ⟨-, inOrder, -, -, -⟩ := check_verdict {} (leashForm ["pet", "leash", "pet"] "leash")
  exact ⟨accepted, (distinct rfl accepted).1, refused, (inOrder _ refused).1, itself⟩

end Schema

end Formwork
