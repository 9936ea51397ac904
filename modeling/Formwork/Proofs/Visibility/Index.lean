import Formwork.Proofs.Visibility.Conditions
import Formwork.Visibility.Tracker

/-! # The index of watchers

Which conditional fields a change concerns can be looked up: under every field stand the fields
whose conditions refer to it. The lookup misses nothing, because a condition answers by the
fields that it refers to and by no others.
-/

namespace Formwork

/-- The fields whose conditions refer to a field, by the name of that field. -/
abbrev Watchers := Entries (List String)

namespace Watchers

/-- The fields that stand under a field. -/
def under (watchers : Watchers) (read : String) : List String := (watchers.get? read).getD []

/-- Let a field stand under one that its condition refers to. -/
def enter (name : String) (watchers : Watchers) (read : String) : Watchers :=
  watchers.put read ((watchers.under read).insert name)

/-- Every conditional field under all that its condition refers to. -/
def ofConditions (conditions : Conditions) : Watchers :=
  conditions.foldl (fun watchers entry => entry.2.watched.foldl (enter entry.1) watchers) []

/-- The fields that stand under one of some changed fields. -/
def affected (watchers : Watchers) (changed : List String) : List String :=
  Names.distinct (changed.flatMap watchers.under)

theorem mem_under_enter {watchers : Watchers} {name read watcher field : String} :
    watcher ∈ (watchers.enter name read).under field ↔
      watcher ∈ watchers.under field ∨ watcher = name ∧ field = read := by
  rw [enter, under, Entries.get?_put]
  by_cases same : read = field
  · subst same
    simp [List.mem_insert_iff, or_comm]
  · simp [same, Ne.symm same, under]

theorem mem_under_foldl_enter {name watcher field : String} (reads : List String)
    (watchers : Watchers) :
    watcher ∈ under (reads.foldl (enter name) watchers) field ↔
      watcher ∈ watchers.under field ∨ watcher = name ∧ field ∈ reads := by
  induction reads generalizing watchers with
  | nil => simp
  | cons read rest ih =>
      rw [List.foldl_cons, ih, mem_under_enter, List.mem_cons, or_assoc, ← and_or_left]

theorem mem_under_ofConditions {conditions : Conditions} {watcher field : String} :
    watcher ∈ (ofConditions conditions).under field ↔
      ∃ c, (watcher, c) ∈ conditions ∧ field ∈ c.references := by
  induction conditions using List.reverseRecOn with
  | nil => simp [ofConditions, under]
  | append_singleton conditions entry ih =>
      rcases entry with ⟨name, c⟩
      have last : ofConditions (conditions ++ [(name, c)]) =
          c.watched.foldl (enter name) (ofConditions conditions) := by
        rw [ofConditions, List.foldl_append]
        rfl
      rw [last, mem_under_foldl_enter, ih, Condition.watched, Names.mem_distinct]
      simp only [List.mem_append, List.mem_singleton, Prod.mk.injEq]
      grind

theorem mem_affected {watchers : Watchers} {changed : List String} {watcher : String} :
    watcher ∈ watchers.affected changed ↔ ∃ field ∈ changed, watcher ∈ watchers.under field := by
  rw [affected, Names.mem_distinct, List.mem_flatMap]

theorem mem_affected_iff_affectedBy {conditions : Conditions} {changed : List String}
    {watcher : String} :
    watcher ∈ (ofConditions conditions).affected changed ↔
      watcher ∈ conditions.affectedBy changed := by
  simp only [mem_affected, mem_under_ofConditions, Conditions.mem_affectedBy]
  grind

end Watchers

/-- The answer of a condition is decided by the values of the fields that it refers to. So the
    fields that a tracker finds affected by a change, be it by looking them up, are all whose
    conditions the change can make answer otherwise. -/
theorem Tracker.affected_of_answers_differ :
    (∀ (c : Condition) (values values' : Entries Value),
      (∀ name ∈ c.references, values.value name = values'.value name) →
        c.holds values = c.holds values') ∧
    ∀ (tracker : Tracker) (changed : List String) (name : String) (c : Condition),
      tracker.conditions.get? name = some c →
      (∃ values values' : Entries Value,
        (∀ other ∉ changed, values.value other = values'.value other) ∧
          c.holds values ≠ c.holds values') →
      name ∈ tracker.conditions.affectedBy changed ∧
        name ∈ (Watchers.ofConditions tracker.conditions).affected changed := by
  refine ⟨fun c _ _ => c.holds_eq_of_value, ?_⟩
  rintro tracker changed name c has ⟨values, values', unchanged, differ⟩
  have concerned : name ∈ tracker.conditions.affectedBy changed := by
    by_contra unaffected
    exact differ (Conditions.holds_eq_of_not_affected has unaffected unchanged)
  exact ⟨concerned, Watchers.mem_affected_iff_affectedBy.mpr concerned⟩

/-- Whether a pet is a dog. The condition names a size that it does not read, since it has
    children; the last of these is a leaf without a name. -/
def Condition.petIsDog : Condition where
  field := some "size"
  operator := some "isEmpty"
  value := .null
  equals := none
  conditions := some [
    { field := some "pet", operator := none, value := .null, equals := some (.str "dog")
      conditions := none, combinator := none },
    { field := some "", operator := none, value := .null, equals := none
      conditions := some [], combinator := none }]
  combinator := some "and"

/-- A pet whose leash is asked for if it is a dog. -/
def Tracker.ofLeash : Tracker :=
  .ofFields 0 [{ name := "pet" }, { name := "size" },
    { name := "leash", condition := some Condition.petIsDog }]

theorem Tracker.ofLeash_affected :
    Condition.petIsDog.holds [("pet", .str "dog")] =
      Condition.petIsDog.holds [("size", .str "big"), ("pet", .str "dog")] ∧
    Tracker.ofLeash.conditions.affectedBy ["pet"] = ["leash"] ∧
    (Watchers.ofConditions Tracker.ofLeash.conditions).affected ["size"] = [] ∧
    "leash" ∈ (Watchers.ofConditions Tracker.ofLeash.conditions).affected ["pet"] := by
  have reads : Condition.petIsDog.references = ["pet"] := rfl
  have alike := Tracker.affected_of_answers_differ.1 Condition.petIsDog [("pet", .str "dog")]
    [("size", .str "big"), ("pet", .str "dog")] fun name member => by
      rw [reads, List.mem_singleton] at member
      subst member
      rfl
  have differ : ∃ values values' : Entries Value,
      (∀ other ∉ ["pet"], values.value other = values'.value other) ∧
        Condition.petIsDog.holds values ≠ Condition.petIsDog.holds values' := by
    refine ⟨[("pet", .str "dog")], [("pet", .str "cat")], fun other kept => ?_, by decide +kernel⟩
    have elsewhere : "pet" ≠ other := fun same => kept (same ▸ List.mem_singleton_self _)
    simp [Entries.value, Entries.get?, elsewhere]
  have concerned := Tracker.affected_of_answers_differ.2 Tracker.ofLeash ["pet"] "leash"
    Condition.petIsDog rfl differ
  exact ⟨alike, by decide +kernel, by decide +kernel, concerned.2⟩

end Formwork
