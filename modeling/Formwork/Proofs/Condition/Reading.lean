import Formwork.Proofs.Condition.Leaves
import Formwork.Proofs.Value.Equality

/-! # What a condition depends on

A condition answers by the values of the fields that it refers to, and of a value it sees
no more than comparisons see. So a write that is no change cannot change its answer, but
for one thing: an item of a list is told from a boolean, although the lists may be the
same. Values in which no list holds a boolean keep that from happening.
-/

namespace Formwork

namespace Value

/-- Whether a value is a list with a boolean among its items. -/
def holdsBoolean : Value → Bool
  | .list items => items.any (·.kind == .bool)
  | _ => false

/-- A value as forms are filled in with: its objects name each entry once, and it is no list
    with a boolean among its items. -/
structure Plain (value : Value) : Prop where
  named : value.WellNamed
  unmixed : value.holdsBoolean = false

/-- Values that no comparison tells apart. -/
def Alike (first second : Value) : Prop :=
  ∀ (comparison : Comparison) (target : Value),
    comparison.holds first target = comparison.holds second target

theorem Alike.refl (value : Value) : Alike value value := fun _ _ => rfl

theorem differs_eq_false_iff {old new : Value} :
    old.differs new = false ↔ old.kind = new.kind ∧ old.same new = true := by
  simp [differs]

theorem isEmpty_of_position? {value : Value} {place : Position}
    (h : value.position? = some place) : value.isEmpty = false := by
  cases value <;> first | rfl | cases h

theorem containment?_of_position? {value : Value} {place : Position}
    (h : value.position? = some place) (target : Value) :
    Comparison.containment? value target = none := by
  cases value <;> first | rfl | cases h

section Same

variable {first second : Value} (kinds : first.kind = second.kind)
  (h : first.same second = true)

include h

theorem isEmpty_congr : first.isEmpty = second.isEmpty := by
  cases same_iff.mp h with
  | @list items others h =>
      cases items <;> cases others <;> first | rfl | cases h
  | number hl hr => rw [isEmpty_of_position? hl, isEmpty_of_position? hr]
  | _ => rfl

include kinds

theorem numberBelow_congr_left (bound : Value) :
    first.numberBelow bound = second.numberBelow bound := by
  cases same_iff.mp h with
  | number hl hr =>
      have numbers : first.isNumber = second.isNumber := by
        cases first <;> cases second <;> first | rfl | cases kinds
      simp only [numberBelow, numbers, hl, hr]
  | _ => rfl

theorem numberBelow_congr_right (bound : Value) :
    bound.numberBelow first = bound.numberBelow second := by
  cases same_iff.mp h with
  | number hl hr =>
      have numbers : first.isNumber = second.isNumber := by
        cases first <;> cases second <;> first | rfl | cases kinds
      simp only [numberBelow, numbers, hl, hr]
  | null => rfl
  | str => rfl
  | list => simp [numberBelow, isNumber]
  | object => simp [numberBelow, isNumber]

end Same

theorem wellNamedItems_iff {items : List Value} :
    WellNamedItems items ↔ ∀ item ∈ items, item.WellNamed := by
  induction items with
  | nil => simp [WellNamedItems]
  | cons item rest ih => simp [WellNamedItems, ih]

/-- Of lists that are the same, both have an item of some kind or none has, if items that are
    the same are both of that kind or none is. -/
theorem any_congr_of_sameItems {items others : List Value} {p : Value → Bool}
    (alike : ∀ item ∈ items, ∀ other ∈ others, item.same other = true → p item = p other)
    (h : sameItems items others = true) : items.any p = others.any p := by
  induction items generalizing others with
  | nil =>
      cases others with
      | nil => rfl
      | cons => cases h
  | cons item items ih =>
      cases others with
      | nil => cases h
      | cons other others =>
          simp only [sameItems, Bool.and_eq_true] at h
          have head := alike item List.mem_cons_self other List.mem_cons_self h.1
          have tail := ih (fun item member other member' => alike item
            (List.mem_cons_of_mem _ member) other (List.mem_cons_of_mem _ member')) h.2
          simp only [List.any_cons, head, tail]

/-- The items of lists that are the same answer one for one to equality with a target, as
    long as no item is a boolean. -/
theorem any_strictlySame_congr {items others : List Value} (named : WellNamedItems items)
    (named' : WellNamedItems others) (unmixed : (list items).holdsBoolean = false)
    (unmixed' : (list others).holdsBoolean = false) (h : sameItems items others = true)
    (target : Value) :
    items.any (·.strictlySame target) = others.any (·.strictlySame target) := by
  simp only [holdsBoolean, List.any_eq_false, Bool.not_eq_true] at unmixed unmixed'
  rw [wellNamedItems_iff] at named named'
  refine any_congr_of_sameItems (fun item member other member' same => ?_) h
  simp only [strictlySame, unmixed item member, unmixed' other member',
    same_congr (named item member) (named' other member') same target]

theorem containment?_congr {first second : Value} (plain : first.Plain) (plain' : second.Plain)
    (h : first.same second = true) (target : Value) :
    Comparison.containment? first target = Comparison.containment? second target := by
  cases same_iff.mp h with
  | list h =>
      have items := any_strictlySame_congr plain.named plain'.named plain.unmixed
        plain'.unmixed h target
      simp only [Comparison.containment?, items]
  | number hl hr => rw [containment?_of_position? hl, containment?_of_position? hr]
  | _ => rfl

/-- Values of one kind that are the same compare alike, as long as they contain the same. -/
theorem holds_congr_of_same {first second target : Value} (named : first.WellNamed)
    (named' : second.WellNamed) (kinds : first.kind = second.kind)
    (h : first.same second = true) (comparison : Comparison)
    (inside : comparison = .contains ∨ comparison = .lacks →
      Comparison.containment? first target = Comparison.containment? second target) :
    comparison.holds first target = comparison.holds second target := by
  have equal := strictlySame_congr named named' kinds h target
  cases comparison with
  | equal => exact equal
  | unequal => simp only [Comparison.holds, equal]
  | greater => exact numberBelow_congr_right kinds h target
  | less => exact numberBelow_congr_left kinds h target
  | contains => simp only [Comparison.holds, inside (.inl rfl)]
  | lacks => simp only [Comparison.holds, inside (.inr rfl)]
  | empty => exact isEmpty_congr h
  | filled => simp only [Comparison.holds, isEmpty_congr h]

theorem alike_of_not_differs {old new : Value} (plain : old.Plain) (plain' : new.Plain)
    (h : old.differs new = false) : Alike old new := by
  obtain ⟨kinds, h⟩ := differs_eq_false_iff.mp h
  intro comparison target
  exact holds_congr_of_same plain.named plain'.named kinds h comparison
    fun _ => containment?_congr plain plain' h target

end Value

namespace Condition

theorem leafHolds_congr {values values' : Entries Value} (c : Condition)
    (h : ∀ name ∈ c.leafField, (values.value name).Alike (values'.value name)) :
    c.leafHolds values = c.leafHolds values' := by
  unfold leafHolds
  split
  next => rfl
  next name rest reads =>
    have alike := h name (reads ▸ List.mem_cons_self)
    cases c.equals with
    | some expected => exact alike .equal expected
    | none => exact alike _ _

/-- A condition answers alike where the fields that it refers to have values that no comparison
    tells apart. -/
theorem holds_congr {values values' : Entries Value} (c : Condition)
    (h : ∀ name ∈ c.references, (values.value name).Alike (values'.value name)) :
    c.holds values = c.holds values' := by
  apply holds_congr_leaves
  intro leaf member
  apply leafHolds_congr
  intro name read
  apply h
  rw [references_eq]
  exact List.mem_flatMap.mpr ⟨leaf, member, read⟩

/-- A condition answers alike where the fields that it refers to have the same values, an absent
    one being null. -/
theorem holds_eq_of_value {values values' : Entries Value} (c : Condition)
    (h : ∀ name ∈ c.references, values.value name = values'.value name) :
    c.holds values = c.holds values' := by
  apply holds_congr c
  intro name member
  rw [h name member]
  exact Value.Alike.refl _

theorem holds_eq_of_get? {values values' : Entries Value} (c : Condition)
    (h : ∀ name ∈ c.references, values.get? name = values'.get? name) :
    c.holds values = c.holds values' := by
  apply holds_eq_of_value c
  intro name member
  rw [Entries.value, Entries.value, h name member]

/-- A condition reads a field: it is a leaf that names the field, or it combines conditions of
    which one reads the field. A combination does not read the field that it names itself. -/
inductive Reads (name : String) : Condition → Prop where
  | leaf {c : Condition} : c.isCompound = false → c.field = some name → name ≠ "" → Reads name c
  | child {c child : Condition} {children : List Condition} :
      c.conditions = some children → child ∈ children → Reads name child → Reads name c

theorem mem_leafField {c : Condition} {name : String} :
    name ∈ c.leafField ↔ c.field = some name ∧ name ≠ "" := by
  unfold leafField
  cases c.field with
  | none => simp
  | some other => by_cases unnamed : other = "" <;> grind

theorem isCompound_of_mem {c child : Condition} {children : List Condition}
    (combines : c.conditions = some children) (member : child ∈ children) :
    c.isCompound = true := by
  obtain ⟨first, rest, rfl⟩ := List.exists_cons_of_ne_nil (List.ne_nil_of_mem member)
  simp only [isCompound, combines]

theorem reads_iff_of_not_compound {c : Condition} (simple : c.isCompound = false) {name : String} :
    c.Reads name ↔ name ∈ c.leafField := by
  rw [mem_leafField]
  constructor
  · rintro (⟨-, names, named⟩ | ⟨combines, member, -⟩)
    · exact ⟨names, named⟩
    · rw [isCompound_of_mem combines member] at simple
      cases simple
  · exact fun ⟨names, named⟩ => .leaf simple names named

theorem reads_iff_of_children {c first : Condition} {rest : List Condition}
    (combines : c.conditions = some (first :: rest)) {name : String} :
    c.Reads name ↔ ∃ child ∈ first :: rest, child.Reads name := by
  constructor
  · rintro (⟨simple, -, -⟩ | ⟨combines', member, reads⟩)
    · rw [isCompound_of_mem combines List.mem_cons_self] at simple
      cases simple
    · rw [combines] at combines'
      cases combines'
      exact ⟨_, member, reads⟩
  · exact fun ⟨child, member, reads⟩ => .child combines member reads

mutual

theorem mem_references_iff {name : String} : ∀ c : Condition, name ∈ c.references ↔ c.Reads name
  | ⟨_, _, _, _, none, _⟩ => (reads_iff_of_not_compound rfl).symm
  | ⟨_, _, _, _, some [], _⟩ => (reads_iff_of_not_compound rfl).symm
  | ⟨_, _, _, _, some (child :: rest), _⟩ => by
      rw [reads_iff_of_children rfl, references, List.mem_append,
        mem_references_iff child, mem_referencesOfAll_iff rest, List.exists_mem_cons_iff]

theorem mem_referencesOfAll_iff {name : String} : ∀ cs : List Condition,
    name ∈ referencesOfAll cs ↔ ∃ c ∈ cs, c.Reads name
  | [] => by simp [referencesOfAll]
  | c :: rest => by
      rw [referencesOfAll, List.mem_append, mem_references_iff c, mem_referencesOfAll_iff rest,
        List.exists_mem_cons_iff]

end

end Condition

end Formwork
