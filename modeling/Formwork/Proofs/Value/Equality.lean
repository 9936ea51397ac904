import Formwork.Proofs.Entries
import Formwork.Value.Equality
import Mathlib.Data.List.Perm.Subperm

/-! # Equality of values is a congruence

Values that are the same are the same as the same further values. An object names each of
its entries once; without that the length of an object would say nothing about its names,
and being the same could be lost on the way from one object to another.
-/

namespace Formwork.Value

mutual

/-- Every object in a value names each of its entries once. -/
def WellNamed : Value → Prop
  | .list items => WellNamedItems items
  | .object entries => (Entries.names entries).Nodup ∧ WellNamedEntries entries
  | _ => True

/-- Every object in some items names each of its entries once. -/
def WellNamedItems : List Value → Prop
  | [] => True
  | item :: rest => WellNamed item ∧ WellNamedItems rest

/-- Every object in some entries names each of its entries once. -/
def WellNamedEntries : List (String × Value) → Prop
  | [] => True
  | (_, value) :: rest => WellNamed value ∧ WellNamedEntries rest

end

theorem wellNamedEntries_iff {entries : List (String × Value)} :
    WellNamedEntries entries ↔ ∀ entry ∈ entries, WellNamed entry.2 := by
  induction entries with
  | nil => simp [WellNamedEntries]
  | cons entry rest ih =>
      rcases entry with ⟨name, value⟩
      simp [WellNamedEntries, ih]

/-! ## What the same values look like -/

theorem sameNumber_iff {left right : Value} :
    sameNumber left right = true ↔
      ∃ place, left.position? = some place ∧ right.position? = some place := by
  unfold sameNumber
  constructor
  · intro h
    split at h
    next a b hl hr => exact ⟨a, hl, (beq_iff_eq.mp h) ▸ hr⟩
    next => cases h
  · rintro ⟨place, hl, hr⟩
    simp only [hl, hr, beq_self_eq_true]

theorem sameEntries_iff {entries others : List (String × Value)} :
    sameEntries entries others = true ↔
      ∀ entry ∈ entries, ∃ other, Entries.get? others entry.1 = some other ∧
        same entry.2 other = true := by
  induction entries with
  | nil => simp [sameEntries]
  | cons entry rest ih =>
      rcases entry with ⟨name, value⟩
      cases found : Entries.get? others name with
      | none => simp [sameEntries, found]
      | some other => simp [sameEntries, found, ih]

/-- The shapes of two values that are the same. -/
inductive SameShape : Value → Value → Prop where
  | null : SameShape .null .null
  | str (s : String) : SameShape (.str s) (.str s)
  | list {items others : List Value} (h : sameItems items others = true) :
      SameShape (.list items) (.list others)
  | object {entries others : List (String × Value)} (size : entries.length = others.length)
      (h : sameEntries entries others = true) : SameShape (.object entries) (.object others)
  | number {left right : Value} {place : Position} (hl : left.position? = some place)
      (hr : right.position? = some place) : SameShape left right

theorem same_iff {left right : Value} : same left right = true ↔ SameShape left right := by
  constructor
  · intro h
    cases left <;> cases right <;> simp only [same] at h <;>
      first
        | exact .null
        | exact (beq_iff_eq.mp h) ▸ .str _
        | exact .list h
        | exact .object (beq_iff_eq.mp (Bool.and_eq_true_iff.mp h).1)
            (Bool.and_eq_true_iff.mp h).2
        | (obtain ⟨place, hl, hr⟩ := sameNumber_iff.mp h
           exact .number hl hr)
  · intro h
    cases h with
    | null => rfl
    | str s => simp [same]
    | list h => simpa only [same] using h
    | object size h => simp [same, size, h]
    | @number _ _ place hl hr =>
        have numbers := sameNumber_iff.mpr ⟨place, hl, hr⟩
        cases left <;> cases right <;> first | exact numbers | cases hl

/-! ## Passing on -/

private theorem sizeOf_entry_lt {entries : List (String × Value)} {entry : String × Value}
    (member : entry ∈ entries) : sizeOf entry.2 < sizeOf (Value.object entries) := by
  have smaller := List.sizeOf_lt_of_mem member
  rcases entry with ⟨name, value⟩
  simp only [Prod.mk.sizeOf_spec, object.sizeOf_spec] at smaller ⊢
  omega

mutual

theorem same_trans : ∀ (first second third : Value), same first second = true →
    same second third = true → same first third = true
  | .list items, second, third, h, h' => by
      rw [same_iff] at h h' ⊢
      cases h with
      | number hl => cases hl
      | list h =>
          cases h' with
          | number hl => cases hl
          | list h' => exact .list (sameItems_trans items _ _ h h')
  | .object entries, second, third, h, h' => by
      rw [same_iff] at h h' ⊢
      cases h with
      | number hl => cases hl
      | object size h =>
          cases h' with
          | number hl => cases hl
          | @object _ last size' h' =>
              refine .object (size.trans size') (sameEntries_iff.mpr ?_)
              intro entry member
              obtain ⟨other, found, sameOther⟩ := sameEntries_iff.mp h entry member
              obtain ⟨final, found', sameFinal⟩ :=
                sameEntries_iff.mp h' _ (Entries.mem_of_get? found)
              exact ⟨final, found', same_trans entry.2 other final sameOther sameFinal⟩
  | .null, second, third, h, h' => by
      cases same_iff.mp h with
      | null => exact h'
      | number hl => cases hl
  | .str _, second, third, h, h' => by
      cases same_iff.mp h with
      | str s => exact h'
      | number hl => cases hl
  | .bool _, second, third, h, h' | .int _, second, third, h, h'
  | .float _, second, third, h, h' => by
      rw [same_iff] at h h' ⊢
      cases h with
      | number hl hr =>
          cases h' with
          | number hl' hr' => exact .number hl (hr'.trans (hl'.symm.trans hr))
          | _ => cases hr
termination_by first => sizeOf first
decreasing_by
  · simp
  · exact sizeOf_entry_lt member

theorem sameItems_trans : ∀ (first second third : List Value), sameItems first second = true →
    sameItems second third = true → sameItems first third = true
  | [], [], _, _, h' => h'
  | item :: items, other :: others, last :: lasts, h, h' => by
      simp only [sameItems, Bool.and_eq_true] at h h' ⊢
      exact ⟨same_trans item other last h.1 h'.1, sameItems_trans items others lasts h.2 h'.2⟩
termination_by first => sizeOf first

end

/-- Of two objects of one size, the first of which has all its names in the second, the
    second has all its names in the first. -/
private theorem names_back {entries others : List (String × Value)}
    (distinct : (Entries.names entries).Nodup) (size : entries.length = others.length)
    (h : sameEntries entries others = true) {name : String}
    (known : name ∈ Entries.names others) : name ∈ Entries.names entries := by
  have within : Entries.names entries ⊆ Entries.names others := by
    intro key member
    obtain ⟨entry, inEntries, rfl⟩ := List.mem_map.mp member
    obtain ⟨other, found, -⟩ := sameEntries_iff.mp h entry inEntries
    exact List.mem_map.mpr ⟨_, Entries.mem_of_get? found, rfl⟩
  have sizes : (Entries.names others).length ≤ (Entries.names entries).length := by
    simp [Entries.names, size]
  exact ((List.subperm_of_subset distinct within).perm_of_length_le sizes).symm.subset known

mutual

theorem same_euclid : ∀ (first second third : Value), WellNamed first → WellNamed second →
    same first second = true → same first third = true → same second third = true
  | .list items, second, third, named, named', h, h' => by
      rw [same_iff] at h h' ⊢
      cases h with
      | number hl => cases hl
      | list h =>
          cases h' with
          | number hl => cases hl
          | list h' => exact .list (sameItems_euclid items _ _ named named' h h')
  | .object entries, second, third, named, named', h, h' => by
      rw [same_iff] at h h' ⊢
      cases h with
      | number hl => cases hl
      | @object _ others size h =>
          cases h' with
          | number hl => cases hl
          | @object _ last size' h' =>
              refine .object (size.symm.trans size') (sameEntries_iff.mpr ?_)
              rintro ⟨name, other⟩ member
              have known := names_back named.1 size h (List.mem_map.mpr ⟨_, member, rfl⟩)
              obtain ⟨entry, inEntries, rfl⟩ := List.mem_map.mp known
              obtain ⟨found, reads, sameOther⟩ := sameEntries_iff.mp h entry inEntries
              have isOther : found = other := by
                rw [Entries.get?_of_mem named'.1 member] at reads
                exact (Option.some.inj reads).symm
              obtain ⟨final, reads', sameFinal⟩ := sameEntries_iff.mp h' entry inEntries
              refine ⟨final, reads', ?_⟩
              exact same_euclid entry.2 other final
                (wellNamedEntries_iff.mp named.2 entry inEntries)
                (wellNamedEntries_iff.mp named'.2 _ member) (isOther ▸ sameOther) sameFinal
  | .null, second, third, _, _, h, h' => by
      cases same_iff.mp h with
      | null => exact h'
      | number hl => cases hl
  | .str _, second, third, _, _, h, h' => by
      cases same_iff.mp h with
      | str s => exact h'
      | number hl => cases hl
  | .bool _, second, third, _, _, h, h' | .int _, second, third, _, _, h, h'
  | .float _, second, third, _, _, h, h' => by
      rw [same_iff] at h h' ⊢
      cases h with
      | number hl hr =>
          cases h' with
          | number hl' hr' => exact .number hr (hr'.trans (hl'.symm.trans hl))
termination_by first => sizeOf first
decreasing_by
  · simp
  · exact sizeOf_entry_lt inEntries

theorem sameItems_euclid : ∀ (first second third : List Value), WellNamedItems first →
    WellNamedItems second → sameItems first second = true → sameItems first third = true →
    sameItems second third = true
  | [], [], _, _, _, _, h' => h'
  | item :: items, other :: others, last :: lasts, named, named', h, h' => by
      simp only [sameItems, Bool.and_eq_true] at h h' ⊢
      exact ⟨same_euclid item other last named.1 named'.1 h.1 h'.1,
        sameItems_euclid items others lasts named.2 named'.2 h.2 h'.2⟩
termination_by first => sizeOf first

end

theorem same_congr {first second : Value} (named : WellNamed first) (named' : WellNamed second)
    (h : same first second = true) (third : Value) : same first third = same second third :=
  Bool.eq_iff_iff.mpr
    ⟨same_euclid first second third named named' h, same_trans first second third h⟩

theorem strictlySame_congr {first second : Value} (named : WellNamed first)
    (named' : WellNamed second) (kinds : first.kind = second.kind)
    (h : same first second = true) (third : Value) :
    first.strictlySame third = second.strictlySame third := by
  simp only [strictlySame, kinds, same_congr named named' h third]

end Formwork.Value
