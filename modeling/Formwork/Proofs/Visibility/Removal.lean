import Formwork.Proofs.Schema.Document
import Formwork.Proofs.Visibility.Cycle
import Formwork.Proofs.Workspace.Settling

/-! # What a cycle removes

A pass removes the values of the fields that are hidden when it ends, although later passes may
show some of these again. That happens only to fields whose conditions read something that the
cycle removed as well. All other fields that are shown in the end keep their values.
-/

namespace Formwork

namespace Cycle

variable {conditions : Conditions} {cycle : Cycle}

/-- A removed field is hidden or reads a removed one, and in that case it is to be evaluated or
    shown as its condition says. -/
def AccountsFor (conditions : Conditions) (cycle : Cycle) (name : String) : Prop :=
  cycle.map.get? name = some false ∨
    ∃ c, conditions.get? name = some c ∧ (∃ other ∈ c.references, other ∈ cycle.cleared) ∧
      (name ∈ cycle.pending ∨ cycle.map.get? name = some (c.holds cycle.values))

/-- What holds between the passes of a cycle of the fields that it removed. -/
structure Accounted (conditions : Conditions) (start : Entries Value) (cycle : Cycle) : Prop where
  fits : cycle.map.Fits conditions
  had : ∀ name ∈ cycle.cleared, start.has name = true
  values : cycle.values = start.dropAll cycle.cleared
  caused : ∀ name ∈ cycle.cleared, cycle.pending ⊆ conditions.affectedBy cycle.cleared
  accounts : ∀ name ∈ cycle.cleared, AccountsFor conditions cycle name

/-- A field that was removed before is evaluated again only because it reads a removed one. -/
theorem Accounted.pass_earlier (distinct : conditions.names.Nodup) {start : Entries Value}
    (accounted : Accounted conditions start cycle) {name : String}
    (earlier : name ∈ cycle.cleared) : AccountsFor conditions (cycle.pass conditions) name := by
  have read : ∀ c : Condition, (∃ other ∈ c.references, other ∈ cycle.cleared) →
      ∃ other ∈ c.references, other ∈ (cycle.pass conditions).cleared := by
    rintro c ⟨other, reads, gone⟩
    exact ⟨other, reads, List.mem_append_left _ gone⟩
  have evaluated := Conditions.get?_reevaluate distinct cycle.pending cycle.values cycle.map name
  by_cases due : name ∈ cycle.pending
  · obtain ⟨c, listed, other, reads, gone⟩ :=
      Conditions.mem_affectedBy.mp (accounted.caused name earlier due)
    have has := Entries.get?_of_mem distinct listed
    simp only [has, due, if_true] at evaluated
    exact .inr ⟨c, has, read c ⟨other, reads, gone⟩, pass_pending_or_right has evaluated⟩
  · have kept : (cycle.pass conditions).map.get? name = cycle.map.get? name := by
      refine evaluated.trans ?_
      cases conditions.get? name <;> simp [due]
    rcases accounted.accounts name earlier with hidden | ⟨c, has, reads, pending | right⟩
    · exact .inl (kept.trans hidden)
    · exact absurd pending due
    · exact .inr ⟨c, has, read c reads, pass_pending_or_right has (kept.trans right)⟩

theorem Accounted.pass (distinct : conditions.names.Nodup) {start : Entries Value}
    (accounted : Accounted conditions start cycle) :
    Accounted conditions start (cycle.pass conditions) := by
  refine ⟨pass_fits distinct accounted.fits, ?_, ?_, ?_, ?_⟩
  · intro name member
    rcases List.mem_append.mp member with earlier | now
    · exact accounted.had name earlier
    · have held := ((mem_removed distinct accounted.fits).mp now).2
      rw [accounted.values, Entries.has, Entries.get?_dropAll] at held
      split at held
      · cases held
      · exact held
  · show cycle.values.dropAll (cycle.removed conditions) =
      start.dropAll (cycle.cleared ++ cycle.removed conditions)
    rw [accounted.values, Entries.dropAll_dropAll]
  · intro name _
    exact Conditions.affectedBy_mono (List.subset_append_right _ _)
  · intro name member
    rcases List.mem_append.mp member with earlier | now
    · exact accounted.pass_earlier distinct earlier
    · exact .inl ((mem_removed distinct accounted.fits).mp now).1

theorem settle_accounted (distinct : conditions.names.Nodup) (fits : cycle.map.Fits conditions)
    (fresh : cycle.cleared = []) : Accounted conditions cycle.values (cycle.settle conditions) := by
  refine passes_of_pass (fun _ accounted _ => accounted.pass distinct) _ ⟨fits, ?_, ?_, ?_, ?_⟩ <;>
    rw [fresh]
  · exact nofun
  · exact (Entries.dropAll_nil _).symm
  · exact nofun
  · exact nofun

/-- When nothing is pending any more, what was removed is hidden, or it reads something that was
    removed and is shown as its condition says. -/
theorem Accounted.of_done {start : Entries Value} (accounted : Accounted conditions start cycle)
    (done : cycle.pending = []) {name : String} (member : name ∈ cycle.cleared) :
    cycle.map.get? name = some false ∨
      ∃ c, conditions.get? name = some c ∧ (∃ other ∈ c.references, other ∈ cycle.cleared) ∧
        cycle.map.get? name = some (c.holds cycle.values) := by
  rcases accounted.accounts name member with hidden | ⟨c, has, reads, pending | right⟩
  · exact .inl hidden
  · rw [done] at pending
    cases pending
  · exact .inr ⟨c, has, reads, right⟩

end Cycle

namespace Schema

variable {config : Config} {document : Value} {schema : Schema}

theorem selfReferring?_of_check (checked : schema.check config = .ok ()) :
    schema.selfReferring? = none := by
  unfold check at checked
  split at checked
  · cases checked
  · cases found : schema.selfReferring? with
    | none => rfl
    | some name =>
        rw [found] at checked
        cases checked

/-- No field of a schema that is accepted has a condition that reads the field itself. -/
theorem not_mem_references (accepted : parse config document = .ok schema) {name : String}
    {c : Condition} (has : (Conditions.ofFields schema.fields).get? name = some c) :
    name ∉ c.references := by
  have unreferred := selfReferring?_of_check (parse_eq_ok_iff.mp accepted).2
  rw [Conditions.get?_ofFields] at has
  obtain ⟨field, found, conditional⟩ := Option.bind_eq_some_iff.mp has
  rw [selfReferring?, Option.map_eq_none_iff, List.find?_eq_none] at unreferred
  have other := unreferred field (Field.mem_of_last? found)
  rw [Field.name_of_last? found] at other
  simpa [conditional] using other

end Schema

namespace Tracker

variable {config : Config} {document : Value} {schema : Schema} {tracker : Tracker}

/-- Where a field stands whose value a cycle removed: it is hidden, or it is shown because its
    condition reads another field whose value the cycle removed. -/
def Lost (conditions : Conditions) (cycle : Cycle) (name : String) : Prop :=
  cycle.map.get? name = some false ∨
    cycle.map.get? name = some true ∧ ∃ c, conditions.get? name = some c ∧
      c.holds cycle.values = true ∧ ∃ other ∈ c.references, other ≠ name ∧ other ∈ cycle.cleared

theorem Serves.cycle_accounted {fields : List Field} (serves : tracker.Serves fields)
    (affected : List String) (values : Entries Value) :
    Cycle.Accounted tracker.conditions values (tracker.cycle affected values) ∧
      (tracker.cycle affected values).pending = [] := by
  have distinct : tracker.conditions.names.Nodup :=
    serves.conditions ▸ Conditions.nodup_ofFields fields
  have fits : tracker.map.Fits tracker.conditions := serves.conditions ▸ serves.fits
  let start : Cycle := { map := tracker.map, values, pending := affected }
  have starts : start.map.Fits tracker.conditions := fits
  exact ⟨Cycle.settle_accounted distinct starts rfl, Cycle.settle_done distinct starts⟩

theorem Serves.cycle_lost (accepted : Schema.parse config document = .ok schema)
    (serves : tracker.Serves schema.fields) (affected : List String) (values : Entries Value)
    {name : String} (member : name ∈ (tracker.cycle affected values).cleared) :
    Lost tracker.conditions (tracker.cycle affected values) name := by
  obtain ⟨accounted, done⟩ := serves.cycle_accounted affected values
  have conditions := serves.conditions
  rcases accounted.of_done done member with hidden | ⟨c, has, ⟨other, reads, gone⟩, right⟩
  · exact .inl hidden
  · cases answer : c.holds (tracker.cycle affected values).values with
    | false =>
        left
        rw [← answer]
        exact right
    | true =>
        refine .inr ⟨?_, c, has, answer, other, reads, ?_, gone⟩
        · rw [← answer]
          exact right
        · rintro rfl
          exact Schema.not_mem_references accepted (conditions ▸ has) reads

/-- A cycle of a tracker, from whatever state and over whatever values, removes the values of
    fields that are hidden in the end, and of fields that are shown in the end because they read
    others that it removed. All other fields that are shown in the end keep their values. -/
theorem Serves.cycle_removes (accepted : Schema.parse config document = .ok schema)
    (serves : tracker.Serves schema.fields) (affected : List String) (values : Entries Value) :
    let cycle := tracker.cycle affected values
    cycle.values = values.dropAll cycle.cleared ∧
      (∀ name ∈ cycle.cleared, values.has name = true ∧ Lost tracker.conditions cycle name) ∧
      ∀ name, cycle.map.get? name ≠ some false →
        (∀ c, tracker.conditions.get? name = some c →
          ∀ other ∈ c.references, other ∉ cycle.cleared) →
        cycle.values.get? name = values.get? name := by
  intro cycle
  obtain ⟨accounted, -⟩ := serves.cycle_accounted affected values
  refine ⟨accounted.values, fun name member => ?_, fun name shown apart => ?_⟩
  · exact ⟨accounted.had name member, serves.cycle_lost accepted affected values member⟩
  · rw [accounted.values, Entries.get?_dropAll, if_neg]
    intro member
    rcases serves.cycle_lost accepted affected values member with
      hidden | ⟨-, c, has, -, other, reads, -, gone⟩
    · exact shown hidden
    · exact apart c has other reads gone

/-- A form for a pet: its kind is asked for if there is one, and a note if no kind is given. -/
def noteForm : Value :=
  .object [("formTitle", .str "Pet"), ("fields", .list [
    .object [("name", .str "pet")],
    .object [("name", .str "kind"),
      ("conditional", .object [("field", .str "pet"), ("value", .str "yes")])],
    .object [("name", .str "note"),
      ("conditional", .object [("field", .str "kind"), ("operator", .str "isEmpty")])]])]

def noteSchema : Schema := (Schema.ofValue noteForm).toOption.getD default

/-- The tracker of the form after its first cycle over a store with a note. -/
def noteTracker : Tracker :=
  { Tracker.ofFields 0 noteSchema.fields with
    map := ((Tracker.ofFields 0 noteSchema.fields).cycle
      (Conditions.ofFields noteSchema.fields).names
      [("pet", .str "yes"), ("note", .str "shy")]).map }

/-- The values after a kind was given for a pet that is no more. -/
def noteValues : Entries Value :=
  [("pet", .str "no"), ("note", .str "shy"), ("kind", .str "dog")]

theorem noteForm_accepted : Schema.parse {} noteForm = .ok noteSchema := by
  have checked : noteSchema.check {} = .ok () := by decide +kernel
  show (noteSchema.check {}).map (fun _ => noteSchema) = _
  rw [checked]
  rfl

theorem noteTracker_serves : noteTracker.Serves noteSchema.fields := .cycle (.new 0) _ _

theorem noteTracker_cycle_removes :
    let cycle := noteTracker.cycle (noteTracker.reactsTo ["kind", "pet"]) noteValues
    cycle.cleared = ["kind", "note"] ∧
      (∀ name ∈ cycle.cleared, noteValues.has name = true ∧
        Lost noteTracker.conditions cycle name) ∧
      cycle.values.get? "pet" = some (.str "no") := by
  have removes := noteTracker_serves.cycle_removes noteForm_accepted
    (noteTracker.reactsTo ["kind", "pet"]) noteValues
  refine ⟨by decide +kernel, removes.2.1, (removes.2.2 "pet" ?_ ?_).trans rfl⟩
  · decide +kernel
  · intro c has
    cases has

theorem noteTracker_removes_shown :
    ¬∀ (config : Config) (document : Value) (schema : Schema) (tracker : Tracker)
        (changed : List String) (values : Entries Value),
      Schema.parse config document = .ok schema → tracker.Serves schema.fields →
      ∀ name ∈ (tracker.cycle (tracker.reactsTo changed) values).cleared,
        (tracker.cycle (tracker.reactsTo changed) values).map.get? name = some false := by
  intro hidden
  have note := hidden {} noteForm noteSchema noteTracker ["kind", "pet"] noteValues
    noteForm_accepted noteTracker_serves "note" (by decide +kernel)
  exact absurd note (by decide +kernel)

end Tracker

end Formwork
