import Formwork.Proofs.Steps.Completion

/-! # What merged data consists of

Where the names of a form are distinct, and the data handed in for a step agrees with what was
merged before on all other names, the merged data consists of a part for each step: what was
last handed in for the step, as far as the step declares it. Going back changes no part, and
handing in again changes the part of the current step only.
-/

namespace Formwork

namespace Schema

variable {schema : Schema} {last : Nat → Entries Value}

/-- What a form declares of some data. -/
def part (form : Schema) (data : Entries Value) : Entries Value :=
  data.filter fun entry => form.fieldNames.contains entry.1

/-- The parts of all steps, of the data that was last handed in for each of them. -/
def gather (schema : Schema) (last : Nat → Entries Value) : Entries Value :=
  schema.steps.zipIdx.flatMap fun step => step.1.part (last step.2)

theorem flatMap_steps (schema : Schema) :
    schema.steps.flatMap fieldNames = schema.fieldNames := by
  unfold steps
  split
  next stepped =>
    have names : (fun step => (schema.ofSection step).fieldNames) = Section.names :=
      funext (ofSection_fieldNames schema)
    rw [List.flatMap_map, names, names_flatMap stepped]
  next => exact List.flatMap_singleton _ _

theorem mem_part {form : Schema} {data : Entries Value} {entry : String × Value} :
    entry ∈ form.part data ↔ entry ∈ data ∧ entry.1 ∈ form.fieldNames := by
  rw [part, List.mem_filter, List.contains_iff_mem]

theorem mem_gather {entry : String × Value} : entry ∈ schema.gather last ↔
    ∃ i form, schema.steps[i]? = some form ∧ entry.1 ∈ form.fieldNames ∧ entry ∈ last i := by
  rw [gather, List.mem_flatMap]
  constructor
  · rintro ⟨⟨form, i⟩, listed, member⟩
    obtain ⟨given, own⟩ := mem_part.mp member
    exact ⟨i, form, List.mem_zipIdx_iff_getElem?.mp listed, own, given⟩
  · rintro ⟨i, form, at_i, own, given⟩
    exact ⟨(form, i), List.mem_zipIdx_iff_getElem?.mpr at_i, mem_part.mpr ⟨given, own⟩⟩

theorem mem_fieldNames_of_step {i : Nat} {form : Schema} (at_i : schema.steps[i]? = some form)
    {name : String} (own : name ∈ form.fieldNames) : name ∈ schema.fieldNames := by
  rw [← flatMap_steps]
  exact List.mem_flatMap.mpr ⟨form, List.mem_of_getElem? at_i, own⟩

variable (distinct : schema.fieldNames.Nodup)

include distinct

theorem step_unique {i j : Nat} {first second : Schema} (at_i : schema.steps[i]? = some first)
    (at_j : schema.steps[j]? = some second) {name : String} (inFirst : name ∈ first.fieldNames)
    (inSecond : name ∈ second.fieldNames) : i = j :=
  part_unique (schema.flatMap_steps.symm ▸ distinct) at_i at_j inFirst inSecond

theorem nodup_gather (kept : ∀ i, (last i).names.Nodup) : (schema.gather last).names.Nodup := by
  have names : (schema.gather last).names =
      schema.steps.zipIdx.flatMap fun step => (step.1.part (last step.2)).names :=
    List.map_flatMap
  rw [names, List.nodup_flatMap]
  refine ⟨fun step _ => Entries.nodup_filter (kept step.2) _, ?_⟩
  rw [List.pairwise_iff_getElem]
  intro i j iLt jLt less name inFirst inSecond
  rw [List.getElem_zipIdx] at inFirst inSecond
  obtain ⟨entry, member, rfl⟩ := List.mem_map.mp inFirst
  obtain ⟨other, member', same⟩ := List.mem_map.mp inSecond
  have own := (mem_part.mp member).2
  have own' := (mem_part.mp member').2
  rw [same] at own'
  have := step_unique distinct (List.getElem?_eq_getElem _) (List.getElem?_eq_getElem _) own own'
  omega

theorem get?_gather (kept : ∀ i, (last i).names.Nodup) {i : Nat} {form : Schema}
    (at_i : schema.steps[i]? = some form) {name : String} (own : name ∈ form.fieldNames) :
    (schema.gather last).get? name = (last i).get? name := by
  ext value
  rw [Entries.get?_eq_some_iff (nodup_gather distinct kept), mem_gather,
    Entries.get?_eq_some_iff (kept i)]
  constructor
  · rintro ⟨j, other, at_j, inOther, given⟩
    rwa [step_unique distinct at_i at_j own inOther]
  · exact fun given => ⟨i, form, at_i, own, given⟩

omit distinct

theorem get?_gather_foreign {name : String} (foreign : name ∉ schema.fieldNames) :
    (schema.gather last).get? name = none := by
  rw [Entries.get?_eq_none_iff]
  intro member
  obtain ⟨entry, gathered, rfl⟩ := List.mem_map.mp member
  obtain ⟨i, form, at_i, own, -⟩ := mem_gather.mp gathered
  exact foreign (mem_fieldNames_of_step at_i own)

end Schema

namespace StepSequence

variable {sequence between next : StepSequence} {data : Entries Value}

theorem advance?_data (h : sequence.advance? data = some next) :
    next.data = sequence.merge data := by
  obtain ⟨-, ⟨-, rfl⟩ | ⟨-, rfl⟩⟩ := advance?_cases h <;> rfl

theorem advance?_again (distinct : data.names.Nodup) (h : sequence.advance? data = some next)
    (back : next.retreat? = some between) : between.advance? data = some next := by
  obtain ⟨unfinished, rfl⟩ := retreat?_cases back
  obtain ⟨-, ⟨-, rfl⟩ | ⟨more, rfl⟩⟩ := advance?_cases h
  · cases unfinished
  · -- the index is back where it was, and what was merged takes the same data as it is
    have notLast : StepSequence.isTerminal { sequence with data := sequence.merge data } = false :=
      beq_eq_false_iff_ne.mpr more
    show StepSequence.advance? { sequence with data := sequence.merge data } data = _
    rw [advance?, merge_merge distinct, notLast]
    rw [if_neg (Bool.eq_false_iff.mp unfinished), if_neg Bool.false_ne_true]

end StepSequence

namespace Workspace

def merged (w : Workspace) : Entries Value := (w.run.map (·.sequence.data)).getD []

/-- What was last handed in for each step once data is handed in; a completed form takes none. -/
def lastAfter (w : Workspace) (last : Nat → Entries Value) (data : Entries Value) :
    Nat → Entries Value :=
  match w.position with
  | some (step, false) => fun i => if i = step then data else last i
  | _ => last

/-- The workspaces in which data is handed in for steps of a form, and what was last handed in
    for each of them. The data of a step is like what was merged before on the names of others:
    the same, or whatever else counts as such. -/
inductive Merging (schema : Schema) (alike : Value → Value → Prop) (before : List Event) :
    (Nat → Entries Value) → Workspace → Prop where
  | began {w w' : Workspace} {key : String} {submission : Submission} {result : Result}
      (found : w.schemas.get? key = some schema) (events : w.events = before)
      (ran : act (.begin key submission) w = (.ok result, w')) :
      Merging schema alike before (fun _ => []) w'
  | advanced {last : Nat → Entries Value} {w : Workspace} {data : Entries Value}
      (merging : Merging schema alike before last w) (distinct : data.names.Nodup)
      (agrees : ∀ name, name ∉ w.stepNames →
        Option.Rel alike (data.get? name) (w.merged.get? name)) :
      Merging schema alike before (w.lastAfter last data) (act (.advance data) w).2
  | retreated {last : Nat → Entries Value} {w : Workspace}
      (merging : Merging schema alike before last w) :
      Merging schema alike before last (act .retreat w).2

variable {w w' : Workspace} {schema : Schema} {alike : Value → Value → Prop}
  {before : List Event} {last : Nat → Entries Value} {steps : StepRun} {data : Entries Value}

/-- What holds of the merged data and of what was last handed in for each step. -/
structure Merged (schema : Schema) (alike : Value → Value → Prop) (before : List Event)
    (last : Nat → Entries Value) (w : Workspace) (steps : StepRun) : Prop where
  running : w.run = some steps
  isOf : steps.sequence.schema = schema
  within : steps.sequence.index < steps.sequence.count
  kept : ∀ i, (last i).names.Nodup
  distinct : steps.sequence.data.names.Nodup
  events : w.events = before ++ steps.handedIn
  own : ∀ i form, schema.steps[i]? = some form → ∀ name ∈ form.fieldNames,
    Option.Rel alike (steps.sequence.data.get? name) ((last i).get? name)
  foreign : ∀ name, name ∉ schema.fieldNames → steps.sequence.data.get? name = none

theorem merged_eq (running : w.run = some steps) : w.merged = steps.sequence.data := by
  rw [merged, running]
  rfl

theorem merged_begin {key : String} {submission : Submission} {result : Result}
    (found : w.schemas.get? key = some schema) (events : w.events = before)
    (ran : act (.begin key submission) w = (.ok result, w')) :
    ∃ steps, Merged schema alike before (fun _ => []) w' steps := by
  obtain rfl := begin_eq found ran
  refine ⟨_, rfl, rfl, schema.steps_pos, fun _ => List.nodup_nil, List.nodup_nil, ?_,
    fun _ _ _ _ _ => .none, fun _ _ => rfl⟩
  rw [StepRun.handedIn_of_unfinished rfl, List.append_nil]
  exact events

/-! ## Handing in -/

theorem act_advance (w : Workspace) (data : Entries Value) :
    (act (.advance data) w).2 = (advance data w).2 := by
  rw [act, Effect.get_bind, perform, Effect.snd_bind_pure]

theorem rel_refl (refl : ∀ value, alike value value) : ∀ x, Option.Rel alike x x
  | none => .none
  | some value => .some (refl value)

theorem rel_trans (trans : ∀ a b c, alike a b → alike b c → alike a c)
    {x y z : Option Value} (h : Option.Rel alike x y) (h' : Option.Rel alike y z) :
    Option.Rel alike x z := by
  cases h with
  | none => exact h'
  | some near =>
      cases h' with
      | some far => exact .some (trans _ _ _ near far)

theorem rel_or {x y : Option Value} (h : Option.Rel alike x y) :
    Option.Rel alike (x.or y) y := by
  cases h with
  | none => exact .none
  | some near => exact .some near

theorem lastAfter_eq (running : w.run = some steps)
    (unfinished : steps.sequence.completed = false) (last : Nat → Entries Value)
    (data : Entries Value) : w.lastAfter last data =
      fun i => if i = steps.sequence.index then data else last i := by
  rw [lastAfter, position_eq running, unfinished]

theorem lastAfter_of_completed (running : w.run = some steps)
    (completed : steps.sequence.completed = true) (last : Nat → Entries Value)
    (data : Entries Value) : w.lastAfter last data = last := by
  rw [lastAfter, position_eq running, completed]

theorem Merged.current (h : Merged schema alike before last w steps) :
    schema.steps[steps.sequence.index]? = some steps.sequence.current :=
  h.isOf ▸ StepSequence.getElem?_steps h.within

section Advance

variable (h : Merged schema alike before last w steps) (distinct : data.names.Nodup)
  (agrees : ∀ name, name ∉ steps.sequence.current.fieldNames →
    Option.Rel alike (data.get? name) (steps.sequence.data.get? name))

include h distinct agrees

theorem Merged.merge_own (refl : ∀ value, alike value value)
    (trans : ∀ a b c, alike a b → alike b c → alike a c) (unique : schema.fieldNames.Nodup)
    {i : Nat} {form : Schema} (at_i : schema.steps[i]? = some form) {name : String}
    (own : name ∈ form.fieldNames) :
    Option.Rel alike ((steps.sequence.merge data).get? name)
      ((if i = steps.sequence.index then data else last i).get? name) := by
  rw [StepSequence.get?_merge_eq distinct]
  by_cases here : i = steps.sequence.index
  · -- what is handed in replaces all that the current step declares
    subst here
    cases h.current.symm.trans at_i
    rw [if_pos own, if_pos rfl, Option.or_none]
    exact rel_refl refl _
  · have foreign : name ∉ steps.sequence.current.fieldNames := fun inCurrent =>
      here (Schema.step_unique unique at_i h.current own inCurrent)
    rw [if_neg foreign, if_neg here]
    exact rel_trans trans (rel_or (agrees name foreign)) (h.own i form at_i name own)

theorem Merged.merge_foreign {name : String} (foreign : name ∉ schema.fieldNames) :
    (steps.sequence.merge data).get? name = none := by
  have outside : name ∉ steps.sequence.current.fieldNames := fun own =>
    foreign (Schema.mem_fieldNames_of_step h.current own)
  have agreed := agrees name outside
  rw [h.foreign name foreign] at agreed
  rw [StepSequence.get?_merge_eq distinct, if_neg outside, h.foreign name foreign,
    Option.or_none]
  cases given : data.get? name with
  | none => rfl
  | some value =>
      rw [given] at agreed
      cases agreed

end Advance

theorem Merged.advance (h : Merged schema alike before last w steps)
    (refl : ∀ value, alike value value)
    (trans : ∀ a b c, alike a b → alike b c → alike a c) (unique : schema.fieldNames.Nodup)
    (distinct : data.names.Nodup)
    (agrees : ∀ name, name ∉ w.stepNames →
      Option.Rel alike (data.get? name) (w.merged.get? name)) :
    ∃ later, Merged schema alike before (w.lastAfter last data) (act (.advance data) w).2
      later := by
  rw [act_advance]
  rw [stepNames_eq h.running, merged_eq h.running] at agrees
  cases moved : steps.sequence.advance? data with
  | none =>
      have completed := StepSequence.advance?_eq_none_iff.mp moved
      rw [advance_none h.running moved, lastAfter_of_completed h.running completed]
      exact ⟨steps, h⟩
  | some next =>
      obtain ⟨unfinished, -⟩ := StepSequence.advance?_cases moved
      have merges := StepSequence.advance?_data moved
      rw [advance_some h.running moved, lastAfter_eq h.running unfinished]
      refine ⟨{ steps with sequence := next }, rfl,
        (StepSequence.advance?_schema moved).trans h.isOf,
        StepSequence.advance?_within h.within moved, ?_, ?_, ?_, ?_, ?_⟩
      · intro i
        split
        · exact distinct
        · exact h.kept i
      · rw [merges]
        exact Entries.nodup_putAll (Entries.nodup_filter h.distinct _) data
      · rw [h.events, StepRun.handedIn_of_unfinished unfinished, List.append_nil]
      · intro i form at_i name own
        rw [merges]
        exact h.merge_own distinct agrees refl trans unique at_i own
      · intro name foreign
        rw [merges]
        exact h.merge_foreign distinct agrees foreign

theorem Merged.retreat (h : Merged schema alike before last w steps) :
    ∃ later, Merged schema alike before last (act .retreat w).2 later ∧
      later.sequence.data = steps.sequence.data := by
  rcases retreat_cases h.running with ⟨-, same⟩ | ⟨next, back, same⟩
  · rw [same]
    exact ⟨steps, h, rfl⟩
  · obtain ⟨unfinished, rfl⟩ := StepSequence.retreat?_cases back
    rw [same]
    exact ⟨_, ⟨rfl, h.isOf, Nat.lt_of_le_of_lt (Nat.sub_le _ _) h.within, h.kept, h.distinct,
      h.events, h.own, h.foreign⟩, rfl⟩

/-- However often a host hands in and goes back, the merged data consists of a part for each
    step. -/
theorem Merging.merged (merging : Merging schema alike before last w)
    (refl : ∀ value, alike value value)
    (trans : ∀ a b c, alike a b → alike b c → alike a c) (unique : schema.fieldNames.Nodup) :
    ∃ steps, Merged schema alike before last w steps := by
  induction merging with
  | began found events ran => exact merged_begin found events ran
  | advanced _ distinct agrees ih =>
      obtain ⟨steps, merged⟩ := ih
      exact merged.advance refl trans unique distinct agrees
  | retreated _ ih =>
      obtain ⟨steps, merged⟩ := ih
      obtain ⟨later, still, -⟩ := merged.retreat
      exact ⟨later, still⟩

/-- Handing in the same data once more after going back leaves the steps as they were. -/
theorem advance_again (running : w.run = some steps) (distinct : data.names.Nodup) :
    (act (.advance data) (act .retreat (act (.advance data) w).2).2).2.run =
        (act (.advance data) w).2.run ∧
      (act (.advance data) (act .retreat (act (.advance data) w).2).2).2.events =
        (act (.advance data) w).2.events := by
  simp only [act_advance]
  cases moved : steps.sequence.advance? data with
  | none =>
      have completed := StepSequence.advance?_eq_none_iff.mp moved
      rw [advance_none running moved]
      rcases retreat_cases running with ⟨-, same⟩ | ⟨next, back, -⟩
      · rw [same, advance_none running moved]
        exact ⟨rfl, rfl⟩
      · rw [StepSequence.retreat?_eq_none_iff.mpr completed] at back
        cases back
  | some next =>
      rw [advance_some running moved]
      rcases retreat_cases (w := { w.moveTo steps next with
        events := w.events ++ StepRun.handedIn { steps with sequence := next } }) rfl with
        ⟨stays, same⟩ | ⟨between, back, same⟩
      · -- the form was completed, so neither has any effect
        have completed := StepSequence.retreat?_eq_none_iff.mp stays
        rw [same, advance_none rfl (StepSequence.advance?_eq_none_iff.mpr completed)]
        exact ⟨rfl, rfl⟩
      · have unfinished := (StepSequence.retreat?_cases back).1
        rw [same, advance_some rfl (StepSequence.advance?_again distinct moved back)]
        refine ⟨rfl, ?_⟩
        show _ ++ StepRun.handedIn { steps with sequence := next } = _
        rw [StepRun.handedIn_of_unfinished unfinished, List.append_nil]

/-- The merged data consists of what was last handed in for each step, as far as the step
    declares it, and is what is submitted on completion. Going back loses none of it, and to
    hand in the same data once more after that changes nothing. -/
theorem Merging.data_gathered (merging : Merging schema alike before last w)
    (refl : ∀ value, alike value value)
    (trans : ∀ a b c, alike a b → alike b c → alike a c) (unique : schema.fieldNames.Nodup) :
    (schema.gather last).names.Nodup ∧ ∃ steps, w.run = some steps ∧
      steps.sequence.data.names.Nodup ∧
      (∀ name, Option.Rel alike (steps.sequence.data.get? name)
        ((schema.gather last).get? name)) ∧
      (∀ i form name, schema.steps[i]? = some form → name ∈ form.fieldNames →
        (last i).get? name = none → steps.sequence.data.get? name = none) ∧
      w.events = before ++ steps.handedIn ∧
      (∃ later, (act .retreat w).2.run = some later ∧
        later.sequence.data = steps.sequence.data) ∧
      ∀ data : Entries Value, data.names.Nodup →
        (act (.advance data) (act .retreat (act (.advance data) w).2).2).2.run =
            (act (.advance data) w).2.run ∧
          (act (.advance data) (act .retreat (act (.advance data) w).2).2).2.events =
            (act (.advance data) w).2.events := by
  obtain ⟨steps, merged⟩ := merging.merged refl trans unique
  refine ⟨Schema.nodup_gather unique merged.kept, steps, merged.running, merged.distinct,
    ?_, ?_, merged.events, ?_, fun data distinct => advance_again merged.running distinct⟩
  · intro name
    by_cases declared : name ∈ schema.fieldNames
    · -- one step declares the name, and the part of that step decides on it
      rw [← Schema.flatMap_steps] at declared
      obtain ⟨form, listed, own⟩ := List.mem_flatMap.mp declared
      obtain ⟨i, at_i⟩ := List.mem_iff_getElem?.mp listed
      rw [Schema.get?_gather unique merged.kept at_i own]
      exact merged.own i form at_i name own
    · rw [merged.foreign name declared, Schema.get?_gather_foreign declared]
      exact .none
  · intro i form name at_i own dropped
    have alikes := merged.own i form at_i name own
    rw [dropped] at alikes
    cases found : steps.sequence.data.get? name with
    | none => rfl
    | some value =>
        rw [found] at alikes
        cases alikes
  · obtain ⟨later, still, same⟩ := merged.retreat
    exact ⟨later, still.running, same⟩

/-! ## An answer that is changed, for instance -/

def petSaid : Workspace := (act (.advance [("pet", .str "yes")]) petBegun).2

def petBack : Workspace := (act .retreat petSaid).2

def petChanged : Workspace := (act (.advance [("pet", .str "no")]) petBack).2

def petClosed : Workspace :=
  (act (.advance [("pet", .str "no"), ("petName", .str "Rex")]) petChanged).2

def petLast : Nat → Entries Value :=
  petChanged.lastAfter
    (petBack.lastAfter (petBegun.lastAfter (fun _ => []) [("pet", .str "yes")])
      [("pet", .str "no")])
    [("pet", .str "no"), ("petName", .str "Rex")]

theorem petClosed_merging : Merging petSteps Eq [] petLast petClosed := by
  have ran : act (.begin "pet" .accepted) { schemas := [("pet", petSteps)] } =
      (.ok .done, petBegun) := rfl
  have begun : Merging petSteps Eq [] (fun _ => []) petBegun := .began rfl rfl ran
  have said : Merging petSteps Eq []
      (petBegun.lastAfter (fun _ => []) [("pet", .str "yes")]) petSaid := by
    refine begun.advanced (by decide) fun name foreign => ?_
    have other : name ∉ ["pet"] := foreign
    rw [Entries.get?_eq_none_iff.mpr other]
    exact .none
  have back : Merging petSteps Eq []
      (petBegun.lastAfter (fun _ => []) [("pet", .str "yes")]) petBack := said.retreated
  have changed : Merging petSteps Eq []
      (petBack.lastAfter (petBegun.lastAfter (fun _ => []) [("pet", .str "yes")])
        [("pet", .str "no")]) petChanged := by
    refine back.advanced (by decide) fun name foreign => ?_
    have other : name ∉ ["pet"] := foreign
    have before : petBack.merged.get? name = none := Entries.get?_eq_none_iff.mpr other
    rw [Entries.get?_eq_none_iff.mpr other, before]
    exact .none
  refine changed.advanced (by decide) fun name foreign => ?_
  have other : name ∉ ["petName"] := foreign
  have absent : Entries.get? [("petName", Value.str "Rex")] name = none :=
    Entries.get?_eq_none_iff.mpr other
  show Option.Rel Eq (Entries.get? (petChanged.merged ++ [("petName", .str "Rex")]) name) _
  rw [Entries.get?_append, absent, Option.or_none]
  exact rel_refl (fun _ => rfl) _

theorem petClosed_data_gathered :
    Merging petSteps Eq [] petLast petClosed ∧
      petSteps.gather petLast = [("pet", .str "no"), ("petName", .str "Rex")] ∧
      ∃ steps, petClosed.run = some steps ∧
        (∀ name, Option.Rel Eq (steps.sequence.data.get? name)
          ((petSteps.gather petLast).get? name)) ∧
        petClosed.events = [.submitted steps.sequence.data] := by
  have merging := petClosed_merging
  obtain ⟨-, steps, running, -, consists, -, events, -⟩ := merging.data_gathered
    (fun _ => rfl) (fun _ _ _ => Eq.trans) petSteps_looksBack.distinct
  have completed : steps.sequence.completed = true := by
    cases running
    rfl
  have accepted : steps.submission ≠ .ignored := by
    cases running
    exact nofun
  refine ⟨merging, rfl, steps, running, consists, ?_⟩
  rw [events, StepRun.handedIn, if_pos ⟨completed, accepted⟩]
  rfl

end Workspace

end Formwork
