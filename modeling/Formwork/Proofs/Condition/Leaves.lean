import Formwork.Condition.Evaluation

/-! # Conditions leaf by leaf

What a condition answers is put together from what its leaves answer: the comparisons at the
ends of its branches. So two conditions of one shape answer alike as soon as their leaves do.
-/

namespace Formwork.Condition

/-- What a leaf answers of the value that it reads. -/
def accepts (leaf : Condition) (current : Value) : Bool :=
  match leaf.equals with
  | some expected => current.strictlySame expected
  | none => (Comparison.named leaf.operator).holds current leaf.value

theorem leafHolds_unread {leaf : Condition} (unread : leaf.leafField = [])
    (values : Entries Value) : leafHolds values leaf = true := by
  simp only [leafHolds, unread]

theorem leafHolds_reads {leaf : Condition} {name : String} {rest : List String}
    (reads : leaf.leafField = name :: rest) (values : Entries Value) :
    leafHolds values leaf = leaf.accepts (values.value name) := by
  simp only [leafHolds, reads]
  rfl

theorem tail_of_leafField {leaf : Condition} {name : String} {rest : List String}
    (reads : leaf.leafField = name :: rest) : rest = [] := by
  unfold leafField at reads
  split at reads
  · split at reads <;> cases reads
    rfl
  · cases reads

mutual

/-- The leaves of a condition, in the order of the document. -/
def leaves : Condition → List Condition
  | ⟨_, _, _, _, some (child :: rest), _⟩ => leaves child ++ leavesOfAll rest
  | ⟨field, operator, value, equals, conditions, combinator⟩ =>
      [⟨field, operator, value, equals, conditions, combinator⟩]

def leavesOfAll : List Condition → List Condition
  | [] => []
  | c :: rest => leaves c ++ leavesOfAll rest

end

mutual

theorem references_eq : ∀ c : Condition, c.references = c.leaves.flatMap leafField
  | ⟨_, _, _, _, none, _⟩ => by simp [references, leaves]
  | ⟨_, _, _, _, some [], _⟩ => by simp [references, leaves]
  | ⟨_, _, _, _, some (child :: rest), _⟩ => by
      simp [references, leaves, references_eq child, referencesOfAll_eq rest]

theorem referencesOfAll_eq : ∀ cs : List Condition,
    referencesOfAll cs = (leavesOfAll cs).flatMap leafField
  | [] => rfl
  | c :: rest => by
      simp [referencesOfAll, leavesOfAll, references_eq c, referencesOfAll_eq rest]

end

mutual

theorem isCompound_of_mem_leaves {leaf : Condition} : ∀ c : Condition,
    leaf ∈ c.leaves → leaf.isCompound = false
  | ⟨_, _, _, _, none, _⟩, member => by rw [List.mem_singleton.mp member]; rfl
  | ⟨_, _, _, _, some [], _⟩, member => by rw [List.mem_singleton.mp member]; rfl
  | ⟨_, _, _, _, some (child :: rest), _⟩, member => by
      rw [leaves] at member
      cases List.mem_append.mp member with
      | inl first => exact isCompound_of_mem_leaves child first
      | inr other => exact isCompound_of_mem_leavesOfAll rest other

theorem isCompound_of_mem_leavesOfAll {leaf : Condition} : ∀ cs : List Condition,
    leaf ∈ leavesOfAll cs → leaf.isCompound = false
  | [], member => nomatch member
  | c :: rest, member => by
      rw [leavesOfAll] at member
      cases List.mem_append.mp member with
      | inl first => exact isCompound_of_mem_leaves c first
      | inr other => exact isCompound_of_mem_leavesOfAll rest other

end

theorem holds_of_not_compound {leaf : Condition} (simple : leaf.isCompound = false)
    (values : Entries Value) : leaf.holds values = leafHolds values leaf := by
  obtain ⟨field, operator, value, equals, conditions, combinator⟩ := leaf
  cases conditions with
  | none => rfl
  | some children =>
      cases children with
      | nil => rfl
      | cons child rest => cases simple

mutual

/-- The condition with another older form of equality in it, throughout. -/
def mapEquals (f : Option Value → Option Value) : Condition → Condition
  | ⟨field, operator, value, equals, conditions, combinator⟩ =>
      ⟨field, operator, value, f equals, mapChildren f conditions, combinator⟩

def mapChildren (f : Option Value → Option Value) : Option (List Condition) →
    Option (List Condition)
  | none => none
  | some children => some (mapItems f children)

def mapItems (f : Option Value → Option Value) : List Condition → List Condition
  | [] => []
  | child :: rest => mapEquals f child :: mapItems f rest

end

theorem mapEquals_of_not_compound {leaf : Condition} (simple : leaf.isCompound = false)
    (f : Option Value → Option Value) :
    leaf.mapEquals f = { leaf with equals := f leaf.equals } := by
  obtain ⟨field, operator, value, equals, conditions, combinator⟩ := leaf
  cases conditions with
  | none => rfl
  | some children =>
      cases children with
      | nil => rfl
      | cons child rest => cases simple

mutual

theorem mapEquals_id : ∀ c : Condition, c.mapEquals id = c
  | ⟨_, _, _, _, none, _⟩ => rfl
  | ⟨field, operator, value, equals, some children, combinator⟩ => by
      simp only [mapEquals, mapChildren, mapItems_id children, id]

theorem mapItems_id : ∀ cs : List Condition, mapItems id cs = cs
  | [] => rfl
  | c :: rest => by simp only [mapItems, mapEquals_id c, mapItems_id rest]

end

variable {f : Option Value → Option Value} {values values' : Entries Value}

mutual

/-- Another older form of equality and other values make no difference to a condition as long
    as they make none to its leaves. -/
theorem holds_mapEquals : ∀ c : Condition,
    (∀ leaf ∈ c.leaves,
      leafHolds values { leaf with equals := f leaf.equals } = leafHolds values' leaf) →
    (c.mapEquals f).holds values = c.holds values'
  | ⟨_, _, _, _, none, _⟩, h => h _ (List.mem_singleton.mpr rfl)
  | ⟨_, _, _, _, some [], _⟩, h => h _ (List.mem_singleton.mpr rfl)
  | ⟨_, _, _, _, some (child :: rest), combinator⟩, h => by
      rw [leaves] at h
      have first := holds_mapEquals child fun leaf member => h leaf (List.mem_append_left _ member)
      have others := allHold_mapItems rest fun leaf member =>
        h leaf (List.mem_append_right _ member)
      simp only [mapEquals, mapChildren, mapItems, holds, first, others]

theorem allHold_mapItems : ∀ cs : List Condition,
    (∀ leaf ∈ leavesOfAll cs,
      leafHolds values { leaf with equals := f leaf.equals } = leafHolds values' leaf) →
    anyHolds values (mapItems f cs) = anyHolds values' cs ∧
      allHold values (mapItems f cs) = allHold values' cs
  | [], _ => ⟨rfl, rfl⟩
  | c :: rest, h => by
      rw [leavesOfAll] at h
      have first := holds_mapEquals c fun leaf member => h leaf (List.mem_append_left _ member)
      have others := allHold_mapItems rest fun leaf member =>
        h leaf (List.mem_append_right _ member)
      simp only [mapItems, anyHolds, allHold, first, others, and_self]

end

theorem holds_congr_leaves (c : Condition)
    (h : ∀ leaf ∈ c.leaves, leafHolds values leaf = leafHolds values' leaf) :
    c.holds values = c.holds values' := by
  have same := holds_mapEquals (f := id) c h
  rwa [mapEquals_id] at same

end Formwork.Condition
