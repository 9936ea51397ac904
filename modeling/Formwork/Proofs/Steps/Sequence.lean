import Formwork.Proofs.Ruleset.Required
import Formwork.Steps.Sequence
import Mathlib.Data.List.Perm.Subperm

/-! # Data of steps

Where the conditions of a form in steps look back, to fields of their own step or of earlier
ones, the data of a step does not bear on what was filled in before it. So a sequence that was
handed data that answers each step it left has data that answers all of these steps, however
often it went back; and after the last step it answers the whole form.
-/

namespace Formwork

namespace Section

def names (step : Section) : List String := step.fields.map (·.name)

end Section

namespace Schema

/-- A form in steps with distinct names, in which conditions look back. -/
structure LooksBack (schema : Schema) : Prop where
  stepped : schema.isMultiStep = true
  distinct : schema.fieldNames.Nodup
  back : ∀ (k : Nat) (step : Section), schema.sections[k]? = some step →
    ∀ field ∈ step.fields, ∀ c, field.condition = some c → ∀ name ∈ c.references,
      ∃ j ≤ k, ∃ earlier, schema.sections[j]? = some earlier ∧ name ∈ earlier.names

/-- Data answers the fields of all steps before one. -/
def AnsweredBefore (schema : Schema) (types : Entries FieldType) (limit : Nat)
    (data : Entries Value) : Prop :=
  ∀ (k : Nat) (step : Section), k < limit → schema.sections[k]? = some step →
    ∀ field ∈ step.fields, field.IsAnswered types data

variable {schema : Schema}

theorem names_flatMap (stepped : schema.isMultiStep = true) :
    schema.fieldNames = schema.sections.flatMap Section.names := by
  unfold isMultiStep sections at stepped
  unfold fieldNames fields sections
  cases same : schema.body with
  | flat => simp [same] at stepped
  | stepped steps => exact List.map_flatMap

theorem LooksBack.names_flatMap (h : schema.LooksBack) :
    schema.fieldNames = schema.sections.flatMap Section.names :=
  Schema.names_flatMap h.stepped

theorem LooksBack.nodup_names (h : schema.LooksBack) {k : Nat} {step : Section}
    (at_k : schema.sections[k]? = some step) : step.names.Nodup := by
  have distinct := h.distinct
  rw [h.names_flatMap, List.nodup_flatMap] at distinct
  exact distinct.1 step (List.mem_of_getElem? at_k)

theorem part_unique {α β : Type} {parts : List α} {f : α → List β}
    (distinct : (parts.flatMap f).Nodup) {i j : Nat} {first second : α}
    (at_i : parts[i]? = some first) (at_j : parts[j]? = some second) {x : β}
    (inFirst : x ∈ f first) (inSecond : x ∈ f second) : i = j := by
  have apart := List.pairwise_iff_getElem.mp (List.nodup_flatMap.mp distinct).2
  obtain ⟨iLt, rfl⟩ := List.getElem?_eq_some_iff.mp at_i
  obtain ⟨jLt, rfl⟩ := List.getElem?_eq_some_iff.mp at_j
  rcases Nat.lt_trichotomy i j with less | same | more
  · exact absurd inSecond (apart i j iLt jLt less inFirst)
  · exact same
  · exact absurd inFirst (apart j i jLt iLt more inSecond)

theorem LooksBack.step_unique (h : schema.LooksBack) {i j : Nat} {first second : Section}
    (at_i : schema.sections[i]? = some first) (at_j : schema.sections[j]? = some second)
    {name : String} (inFirst : name ∈ first.names) (inSecond : name ∈ second.names) : i = j :=
  part_unique (h.names_flatMap ▸ h.distinct) at_i at_j inFirst inSecond

theorem steps_pos (schema : Schema) : 0 < schema.steps.length := by
  unfold steps
  split
  next stepped =>
    rw [isMultiStep, Bool.not_eq_true', List.isEmpty_eq_false_iff] at stepped
    rw [List.length_map]
    exact List.length_pos_of_ne_nil stepped
  next => exact Nat.one_pos

theorem ofSection_fields (schema : Schema) (step : Section) :
    (schema.ofSection step).fields = step.fields := by
  simp [ofSection, fields]

theorem ofSection_fieldNames (schema : Schema) (step : Section) :
    (schema.ofSection step).fieldNames = step.names := by
  rw [fieldNames, ofSection_fields]
  rfl

end Schema

namespace Field

/-- Whether data answers a field depends on what it holds for the field and for the fields to
    which the field's condition refers. -/
theorem IsAnswered.congr {field : Field} {types : Entries FieldType} {data later : Entries Value}
    (h : field.IsAnswered types data) (own : later.get? field.name = data.get? field.name)
    (read : ∀ c, field.condition = some c → ∀ name ∈ c.references,
      later.get? name = data.get? name) : field.IsAnswered types later := by
  have due : field.isDue later = field.isDue data := by
    unfold isDue
    cases has : field.condition with
    | none => rfl
    | some c => exact Condition.holds_eq_of_get? c (read c has)
  refine ⟨fun undue => ?_, fun required asked => ?_⟩
  · rw [own]
    exact h.closed (due ▸ undue)
  · exact (h.complete required (due ▸ asked)).congr own

end Field

namespace Schema

variable {schema : Schema} {types : Entries FieldType} {data later : Entries Value}

theorem AnsweredBefore.mono {limit less : Nat} (h : schema.AnsweredBefore types limit data)
    (fewer : less ≤ limit) : schema.AnsweredBefore types less data :=
  fun k step early => h k step (Nat.lt_of_lt_of_le early fewer)

theorem AnsweredBefore.of_step (looksBack : schema.LooksBack) {limit : Nat} {current : Section}
    (h : schema.AnsweredBefore types limit data)
    (here : schema.sections[limit]? = some current)
    (same : ∀ name, name ∉ current.names → later.get? name = data.get? name) :
    schema.AnsweredBefore types limit later := by
  intro k step early at_k field member
  have elsewhere : ∀ j earlier name, j ≤ k → schema.sections[j]? = some earlier →
      name ∈ earlier.names → name ∉ current.names := by
    intro j earlier name within at_j inEarlier inCurrent
    have := looksBack.step_unique at_j here inEarlier inCurrent
    omega
  refine (h k step early at_k field member).congr ?_ ?_
  · exact same _ (elsewhere k step _ (Nat.le_refl k) at_k (List.mem_map.mpr ⟨field, member, rfl⟩))
  · intro c has name reads
    obtain ⟨j, within, earlier, at_j, inEarlier⟩ :=
      looksBack.back k step at_k field member c has name reads
    exact same name (elsewhere j earlier name within at_j inEarlier)

theorem AnsweredBefore.succ {limit : Nat} {current : Section}
    (h : schema.AnsweredBefore types limit data)
    (here : schema.sections[limit]? = some current)
    (own : ∀ field ∈ current.fields, field.IsAnswered types data) :
    schema.AnsweredBefore types (limit + 1) data := by
  intro k step early at_k field member
  rcases Nat.lt_succ_iff_lt_or_eq.mp early with before | same
  · exact h k step before at_k field member
  · subst same
    rw [here] at at_k
    cases at_k
    exact own field member

end Schema

namespace StepSequence

variable {sequence next : StepSequence} {types : Entries FieldType} {step : Section}
  {data : Entries Value}

/-- How many steps were left for good, as far as the data is concerned. -/
def reached (sequence : StepSequence) : Nat :=
  if sequence.completed then sequence.schema.sections.length else sequence.index

/-- The data of a sequence answers the steps that it has left. -/
structure Answers (sequence : StepSequence) (types : Entries FieldType) : Prop where
  within : sequence.index < sequence.schema.sections.length
  distinct : sequence.data.names.Nodup
  plain : ∀ name value, sequence.data.get? name = some value → value.Plain
  answered : sequence.schema.AnsweredBefore types sequence.reached sequence.data

theorem count_eq (stepped : sequence.schema.isMultiStep = true) :
    sequence.count = sequence.schema.sections.length := by
  rw [count, Schema.steps, if_pos stepped, List.length_map]

theorem getElem?_steps (within : sequence.index < sequence.count) :
    sequence.schema.steps[sequence.index]? = some sequence.current := by
  rw [current, List.getElem?_eq_getElem within]
  rfl

theorem current_congr (schema : next.schema = sequence.schema)
    (index : next.index = sequence.index) : next.current = sequence.current := by
  rw [current, current, schema, index]

theorem current_eq (stepped : sequence.schema.isMultiStep = true)
    (here : sequence.schema.sections[sequence.index]? = some step) :
    sequence.current = sequence.schema.ofSection step := by
  rw [current, Schema.steps, if_pos stepped, List.getElem?_map, here]
  rfl

/-- Handing in data takes a sequence that is not completed one step on, or completes it. -/
theorem advance?_cases (h : sequence.advance? data = some next) :
    sequence.completed = false ∧
      (sequence.index + 1 = sequence.count ∧
        next = { sequence with data := sequence.merge data, completed := true } ∨
      sequence.index + 1 ≠ sequence.count ∧
        next = { sequence with data := sequence.merge data, index := sequence.index + 1 }) := by
  unfold advance? at h
  dsimp only at h
  split at h
  next => cases h
  next unfinished =>
    refine ⟨Bool.not_eq_true _ ▸ unfinished, ?_⟩
    split at h
    next terminal =>
      cases h
      exact .inl ⟨eq_of_beq terminal, rfl⟩
    next more =>
      cases h
      exact .inr ⟨fun last => more (beq_iff_eq.mpr last), rfl⟩

/-- How many steps, from the first one on, a sequence has moved on from. -/
def passed (sequence : StepSequence) : Nat :=
  if sequence.completed then sequence.count else sequence.index

theorem advance?_passed (h : sequence.advance? data = some next) :
    sequence.passed = sequence.index ∧ next.passed = sequence.index + 1 := by
  obtain ⟨unfinished, ⟨last, rfl⟩ | ⟨-, rfl⟩⟩ := advance?_cases h
  · exact ⟨by rw [passed, unfinished]; rfl, last.symm⟩
  · refine ⟨by rw [passed, unfinished]; rfl, ?_⟩
    simp only [passed, unfinished, Bool.false_eq_true, if_false]

theorem advance?_schema (h : sequence.advance? data = some next) :
    next.schema = sequence.schema := by
  obtain ⟨-, ⟨-, rfl⟩ | ⟨-, rfl⟩⟩ := advance?_cases h <;> rfl

theorem advance?_within (within : sequence.index < sequence.count)
    (h : sequence.advance? data = some next) : next.index < next.count := by
  obtain ⟨-, ⟨-, rfl⟩ | ⟨more, rfl⟩⟩ := advance?_cases h
  · exact within
  · show sequence.index + 1 < sequence.count
    omega

theorem advance?_eq_none_iff : sequence.advance? data = none ↔ sequence.completed = true := by
  unfold advance?
  dsimp only
  split
  next completed => exact iff_of_true rfl completed
  next unfinished =>
    refine iff_of_false ?_ unfinished
    split <;> exact Option.some_ne_none _

theorem retreat?_eq_none_iff : sequence.retreat? = none ↔ sequence.completed = true := by
  unfold retreat?
  split
  next completed => exact iff_of_true rfl completed
  next unfinished => exact iff_of_false (Option.some_ne_none _) unfinished

theorem retreat?_cases (h : sequence.retreat? = some next) :
    sequence.completed = false ∧ next = { sequence with index := sequence.index - 1 } := by
  unfold retreat? at h
  split at h
  next => cases h
  next unfinished =>
    cases h
    exact ⟨Bool.not_eq_true _ ▸ unfinished, rfl⟩

/-- Of the fields of the current step merged data has what the data of the step has, of others
    also what was there before. -/
theorem get?_merge_eq (distinct : data.names.Nodup) (name : String) :
    (sequence.merge data).get? name = (data.get? name).or
      (if name ∈ sequence.current.fieldNames then none else sequence.data.get? name) := by
  rw [merge, Entries.get?_putAll_of_nodup distinct, Entries.get?_dropAll]
  cases given : data.get? name with
  | some value => rfl
  | none =>
      have missing : name ∈ (sequence.current.fieldNames.filter fun name => !data.has name) ↔
          name ∈ sequence.current.fieldNames := by
        simp [List.mem_filter, Entries.has, given]
      simp only [missing]

theorem get?_merge (own : sequence.current.fieldNames = step.names)
    (distinct : data.names.Nodup)
    (agrees : ∀ name, name ∉ step.names → data.get? name = sequence.data.get? name)
    (name : String) : (sequence.merge data).get? name = data.get? name := by
  rw [get?_merge_eq distinct, own]
  split
  · exact Option.or_none
  next foreign => rw [agrees name foreign, Option.or_self]

theorem merge_merge (distinct : data.names.Nodup) :
    StepSequence.merge { sequence with data := sequence.merge data } data =
      sequence.merge data := by
  have kept : (sequence.merge data).dropAll
      (sequence.current.fieldNames.filter fun name => !data.has name) = sequence.merge data := by
    refine List.filter_eq_self.mpr fun entry member => ?_
    rw [Bool.not_eq_true', List.contains_eq_mem, decide_eq_false_iff_not, List.mem_filter]
    rintro ⟨own, absent⟩
    -- a field of the step that the data does not have was left out the first time
    have missing : data.get? entry.1 = none :=
      Entries.get?_eq_none_of_not_has (Bool.not_eq_true' _ ▸ absent)
    have gone : (sequence.merge data).get? entry.1 = none := by
      rw [get?_merge_eq distinct, missing, if_pos own]
      rfl
    exact Entries.get?_eq_none_iff.mp gone (List.mem_map_of_mem member)
  show ((sequence.merge data).dropAll
    (sequence.current.fieldNames.filter fun name => !data.has name)).putAll data = _
  rw [kept]
  refine Entries.putAll_of_get? fun entry member => ?_
  rw [get?_merge_eq distinct, Entries.get?_of_mem distinct member]
  rfl

/-- Handing in data of a step that answers it, and agrees with the merged data elsewhere. -/
theorem Answers.advance (answers : sequence.Answers types)
    (looksBack : sequence.schema.LooksBack)
    (here : sequence.schema.sections[sequence.index]? = some step)
    (distinct : data.names.Nodup)
    (plain : ∀ name value, data.get? name = some value → value.Plain)
    (agrees : ∀ name, name ∉ step.names → data.get? name = sequence.data.get? name)
    (own : ∀ field ∈ step.fields, field.IsAnswered types data)
    (h : sequence.advance? data = some next) :
    next.Answers types ∧ next.schema = sequence.schema ∧
      ∀ name, next.data.get? name = data.get? name := by
  have current : sequence.current.fieldNames = step.names := by
    rw [current_eq looksBack.stepped here, Schema.ofSection_fieldNames]
  have reads := get?_merge current distinct agrees
  have merged : (sequence.merge data).names.Nodup :=
    Entries.nodup_putAll (Entries.nodup_filter answers.distinct _) data
  unfold advance? at h
  dsimp only at h
  split at h
  next => cases h
  next unfinished =>
    -- all steps up to this one are answered by what is merged
    have upTo : sequence.schema.AnsweredBefore types (sequence.index + 1)
        (sequence.merge data) := by
      have before := answers.answered
      rw [reached, if_neg unfinished] at before
      have still := before.of_step looksBack here fun name foreign =>
        (reads name).trans (agrees name foreign)
      exact still.succ here fun field member =>
        (own field member).congr (reads _) fun _ _ name _ => reads name
    split at h
    next terminal =>
      cases h
      have last : sequence.index + 1 = sequence.schema.sections.length := by
        rw [← count_eq looksBack.stepped]
        exact eq_of_beq terminal
      refine ⟨⟨answers.within, merged, ?_, ?_⟩, rfl, reads⟩
      · intro name value found
        exact plain name value ((reads name).symm.trans found)
      · rw [last] at upTo
        exact upTo
    next more =>
      cases h
      refine ⟨⟨?_, merged, ?_, ?_⟩, rfl, reads⟩
      · have notLast : sequence.index + 1 ≠ sequence.schema.sections.length := by
          rw [← count_eq looksBack.stepped]
          exact fun last => more (beq_iff_eq.mpr last)
        have within := answers.within
        show sequence.index + 1 < sequence.schema.sections.length
        omega
      · intro name value found
        exact plain name value ((reads name).symm.trans found)
      · rw [reached, if_neg unfinished]
        exact upTo

theorem Answers.retreat (answers : sequence.Answers types)
    (h : sequence.retreat? = some next) : next.Answers types ∧ next.schema = sequence.schema := by
  unfold retreat? at h
  split at h
  next => cases h
  next unfinished =>
    cases h
    have before := answers.answered
    rw [reached, if_neg unfinished] at before
    have within := answers.within
    refine ⟨⟨?_, answers.distinct, answers.plain, ?_⟩, rfl⟩
    · show sequence.index - 1 < sequence.schema.sections.length
      omega
    · rw [reached, if_neg unfinished]
      exact before.mono (Nat.sub_le _ _)

theorem answers_begin {schema : Schema} (looksBack : schema.LooksBack) (startedAt : Binary64) :
    Answers { schema, startedAt } types where
  within := by
    have stepped := looksBack.stepped
    rw [Schema.isMultiStep, Bool.not_eq_true', List.isEmpty_eq_false_iff] at stepped
    exact List.length_pos_of_ne_nil stepped
  distinct := List.nodup_nil
  plain := fun _ _ none => nomatch none
  answered := fun _ _ early => absurd early (Nat.not_lt_zero _)

theorem Answers.completed (answers : sequence.Answers types) (ended : sequence.completed = true) :
    ∀ step ∈ sequence.schema.sections, ∀ field ∈ step.fields,
      field.IsAnswered types sequence.data := by
  intro step listed field member
  obtain ⟨k, at_k⟩ := List.mem_iff_getElem?.mp listed
  have all := answers.answered
  rw [reached, if_pos ended] at all
  obtain ⟨less, -⟩ := List.getElem?_eq_some_iff.mp at_k
  exact all k step less at_k field member

end StepSequence

end Formwork
