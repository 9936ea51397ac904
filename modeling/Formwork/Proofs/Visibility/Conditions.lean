import Formwork.Proofs.Condition.Reading
import Formwork.Visibility.Cycle
import Mathlib.Data.List.Induction

/-! # Conditions and maps of a form's fields

Which conditions fields have, which of them a change concerns, and what evaluating some of
them makes of a map. Names that are declared again keep one entry, for which the last
declaration counts.
-/

namespace Formwork

namespace Field

/-- The field of a name among fields; the last one counts. -/
def last? (fields : List Field) (name : String) : Option Field :=
  fields.reverse.find? (·.name = name)

theorem last?_concat (fields : List Field) (field : Field) (name : String) :
    last? (fields ++ [field]) name =
      if field.name = name then some field else last? fields name := by
  by_cases same : field.name = name <;> simp [last?, same]

theorem last?_isSome_iff {fields : List Field} {name : String} :
    (last? fields name).isSome = true ↔ name ∈ fields.map (·.name) := by
  simp [last?]

theorem name_of_last? {fields : List Field} {name : String} {field : Field}
    (h : last? fields name = some field) : field.name = name := by
  simpa using List.find?_some h

theorem mem_of_last? {fields : List Field} {name : String} {field : Field}
    (h : last? fields name = some field) : field ∈ fields :=
  List.mem_reverse.mp (List.mem_of_find?_eq_some h)

theorem last?_of_mem {fields : List Field} (distinct : (fields.map (·.name)).Nodup)
    {field : Field} (member : field ∈ fields) : last? fields field.name = some field := by
  have declared : (last? fields field.name).isSome = true :=
    last?_isSome_iff.mpr (List.mem_map.mpr ⟨field, member, rfl⟩)
  obtain ⟨other, found⟩ := Option.isSome_iff_exists.mp declared
  have same := List.inj_on_of_nodup_map distinct (mem_of_last? found) member
    (name_of_last? found)
  rw [found, same]

/-- Whether the values of a form ask for a field: its condition holds, or it has none. -/
def isDue (field : Field) (values : Entries Value) : Bool :=
  field.condition.all (·.holds values)

end Field

namespace Conditions

/-! ## The conditions of fields -/

private theorem ofFields_concat (fields : List Field) (field : Field) :
    ofFields (fields ++ [field]) = match field.condition with
      | some condition => (ofFields fields).put field.name condition
      | none => (ofFields fields).drop field.name := by
  rw [ofFields, List.foldl_append]
  rfl

theorem get?_ofFields (fields : List Field) (name : String) :
    (ofFields fields).get? name = (Field.last? fields name).bind (·.condition) := by
  induction fields using List.reverseRecOn with
  | nil => rfl
  | append_singleton fields field ih =>
      rw [ofFields_concat, Field.last?_concat]
      by_cases same : field.name = name
      · cases has : field.condition <;>
          simp [same, has, Entries.get?_put, Entries.get?_drop]
      · cases has : field.condition <;>
          simp [same, ih, Entries.get?_put, Entries.get?_drop]

theorem nodup_ofFields (fields : List Field) : (ofFields fields).names.Nodup := by
  induction fields using List.reverseRecOn with
  | nil => exact List.nodup_nil
  | append_singleton fields field ih =>
      rw [ofFields_concat]
      cases field.condition with
      | some condition => exact Entries.nodup_put ih _ _
      | none => exact Entries.nodup_filter ih _

theorem declared_of_mem_ofFields {fields : List Field} {name : String}
    (h : name ∈ (ofFields fields).names) : name ∈ fields.map (·.name) := by
  rw [← Entries.get?_isSome_iff, get?_ofFields] at h
  rw [← Field.last?_isSome_iff]
  cases found : Field.last? fields name with
  | none => simp [found] at h
  | some field => rfl

/-! ## What a change concerns -/

theorem mem_affectedBy {conditions : Conditions} {changed : List String} {name : String} :
    name ∈ conditions.affectedBy changed ↔
      ∃ c, (name, c) ∈ conditions ∧ ∃ read ∈ c.references, read ∈ changed := by
  simp [affectedBy, Entries.names]

theorem affectedBy_nil (conditions : Conditions) : conditions.affectedBy [] = [] := by
  simp [affectedBy, Entries.names]

theorem affectedBy_mono {conditions : Conditions} {changed more : List String}
    (h : changed ⊆ more) : conditions.affectedBy changed ⊆ conditions.affectedBy more := by
  intro name member
  obtain ⟨c, isIn, read, reads, hit⟩ := mem_affectedBy.mp member
  exact mem_affectedBy.mpr ⟨c, isIn, read, reads, h hit⟩

theorem not_mem_of_not_affected {conditions : Conditions} {changed : List String}
    {name : String} {c : Condition} (h : conditions.get? name = some c)
    (unaffected : name ∉ conditions.affectedBy changed) {read : String}
    (reads : read ∈ c.references) : read ∉ changed := fun hit =>
  unaffected (mem_affectedBy.mpr ⟨c, Entries.mem_of_get? h, read, reads, hit⟩)

theorem holds_eq_of_not_affected {conditions : Conditions} {changed : List String}
    {name : String} {c : Condition} (has : conditions.get? name = some c)
    (unaffected : name ∉ conditions.affectedBy changed) {values values' : Entries Value}
    (unchanged : ∀ other ∉ changed, values.value other = values'.value other) :
    c.holds values = c.holds values' :=
  c.holds_eq_of_value fun _ reads =>
    unchanged _ (not_mem_of_not_affected has unaffected reads)

/-! ## Evaluating some conditions -/

private theorem reevaluate_cons (name : String) (c : Condition) (rest : Conditions)
    (pending : List String) (values : Entries Value) (map : Visibility) :
    reevaluate ((name, c) :: rest) pending values map =
      reevaluate rest pending values
        (if pending.contains name then map.put name (c.holds values) else map) := rfl

/-- What is pending and has a condition reads as the condition answers, the rest as before. -/
theorem get?_reevaluate {conditions : Conditions} (distinct : conditions.names.Nodup)
    (pending : List String) (values : Entries Value) (map : Visibility) (name : String) :
    Entries.get? (conditions.reevaluate pending values map) name =
      match conditions.get? name with
      | some c => if name ∈ pending then some (c.holds values) else map.get? name
      | none => map.get? name := by
  induction conditions generalizing map with
  | nil => rfl
  | cons entry rest ih =>
      rcases entry with ⟨key, c⟩
      obtain ⟨fresh, distinct⟩ := List.nodup_cons.mp distinct
      rw [reevaluate_cons, ih distinct]
      by_cases same : key = name
      · subst same
        have absent : Entries.get? rest key = none := Entries.get?_eq_none_iff.mpr fresh
        by_cases due : key ∈ pending <;> simp [Entries.get?, absent, due, Entries.get?_put]
      · by_cases due : key ∈ pending <;> simp [Entries.get?, same, due, Entries.get?_put]

theorem names_reevaluate {conditions : Conditions} {map : Visibility}
    (known : conditions.names ⊆ map.names) (pending : List String) (values : Entries Value) :
    Entries.names (conditions.reevaluate pending values map) = map.names := by
  induction conditions generalizing map with
  | nil => rfl
  | cons entry rest ih =>
      rcases entry with ⟨name, c⟩
      have isKnown : name ∈ map.names := known List.mem_cons_self
      have kept : Entries.names (if pending.contains name then map.put name (c.holds values)
          else map) = map.names := by
        split
        · rw [Entries.names_put, if_pos isKnown]
        · rfl
      rw [reevaluate_cons, ih, kept]
      rw [kept]
      exact fun key member => known (List.mem_cons_of_mem _ member)

theorem subset_names_reevaluate (conditions : Conditions) (pending : List String)
    (values : Entries Value) (map : Visibility) :
    map.names ⊆ Entries.names (conditions.reevaluate pending values map) := by
  induction conditions generalizing map with
  | nil => exact List.Subset.refl _
  | cons entry rest ih =>
      rcases entry with ⟨name, c⟩
      rw [reevaluate_cons]
      refine List.Subset.trans ?_ (ih _)
      split
      · rw [Entries.names_put]
        split
        · exact List.Subset.refl _
        · exact List.subset_append_left _ _
      · exact List.Subset.refl _

theorem reevaluate_of_right {conditions : Conditions} {map : Visibility}
    {values : Entries Value}
    (right : ∀ name c, (name, c) ∈ conditions → map.get? name = some (c.holds values))
    (pending : List String) : conditions.reevaluate pending values map = map := by
  induction conditions with
  | nil => rfl
  | cons entry rest ih =>
      rcases entry with ⟨name, c⟩
      rw [reevaluate_cons, Entries.put_of_get? (right name c List.mem_cons_self), ite_self]
      exact ih fun key other member => right key other (List.mem_cons_of_mem _ member)

end Conditions

namespace Visibility

theorem get?_all (fields : List Field) (name : String) :
    (all fields).get? name = if name ∈ fields.map (·.name) then some true else none := by
  have names : Entries.names (fields.map fun field => (field.name, true)) =
      fields.map (·.name) := by simp [Entries.names]
  rw [all, Entries.ofList]
  split
  next declared =>
    obtain ⟨shown, member, reads⟩ :=
      Entries.get?_putAll_of_mem (names ▸ declared) ([] : Entries Bool)
    obtain ⟨field, -, same⟩ := List.mem_map.mp member
    cases same
    exact reads
  next undeclared =>
    rw [Entries.get?_putAll_of_not_mem (names ▸ undeclared)]
    rfl

theorem mem_names_all {fields : List Field} {name : String} :
    name ∈ (all fields).names ↔ name ∈ fields.map (·.name) := by
  rw [← Entries.get?_isSome_iff, get?_all]
  split <;> simp [*]

theorem mem_hidden {map : Visibility} (distinct : map.names.Nodup) {name : String} :
    name ∈ map.hidden ↔ map.get? name = some false := by
  have listed : name ∈ map.hidden ↔ (name, false) ∈ map := by
    simp [hidden]
  rw [listed]
  exact ⟨Entries.get?_of_mem distinct, Entries.mem_of_get?⟩

theorem flipped_eq_nil_iff {map previous : Visibility} (names : map.names = previous.names)
    (distinct : map.names.Nodup) : map.flipped previous = [] ↔ map = previous := by
  rw [flipped, List.map_eq_nil_iff, List.filter_eq_nil_iff]
  constructor
  · intro same
    refine Entries.ext_get? names (names ▸ distinct) fun name => ?_
    by_cases known : name ∈ map.names
    · obtain ⟨shown, reads⟩ :=
        Option.isSome_iff_exists.mp (Entries.get?_isSome_iff.mpr known)
      have kept := same _ (Entries.mem_of_get? reads)
      simp only [bne_iff_ne, ne_eq, not_not] at kept
      exact reads.trans kept.symm
    · rw [Entries.get?_eq_none_iff.mpr known, Entries.get?_eq_none_iff.mpr (names ▸ known)]
  · rintro rfl entry member
    simp [Entries.get?_of_mem distinct member]

/-- A map for fields of which some have conditions: it knows all of these, and it shows the
    fields that have none. -/
structure Fits (map : Visibility) (conditions : Conditions) : Prop where
  distinct : map.names.Nodup
  known : conditions.names ⊆ map.names
  shown : ∀ name ∈ map.names, name ∉ conditions.names → map.get? name = some true

instance (map : Visibility) (conditions : Conditions) : Decidable (map.Fits conditions) :=
  decidable_of_iff (map.names.Nodup ∧ (∀ name ∈ conditions.names, name ∈ map.names) ∧
      ∀ name ∈ map.names, name ∉ conditions.names → map.get? name = some true)
    ⟨fun h => ⟨h.1, h.2.1, h.2.2⟩, fun h => ⟨h.distinct, h.known, h.shown⟩⟩

theorem fits_all (fields : List Field) : (all fields).Fits (Conditions.ofFields fields) where
  distinct := Entries.nodup_ofList _
  known := fun _ member => mem_names_all.mpr (Conditions.declared_of_mem_ofFields member)
  shown := by
    intro name declared _
    rw [get?_all, if_pos (mem_names_all.mp declared)]

theorem Fits.conditional {map : Visibility} {conditions : Conditions}
    (fits : map.Fits conditions) {name : String} (hidden : map.get? name = some false) :
    name ∈ conditions.names := by
  by_contra free
  have known : name ∈ map.names := by
    rw [← Entries.get?_isSome_iff, hidden]
    rfl
  rw [fits.shown name known free] at hidden
  cases hidden

theorem Fits.reevaluate {map : Visibility} {conditions : Conditions}
    (fits : map.Fits conditions) (distinct : conditions.names.Nodup) (pending : List String)
    (values : Entries Value) :
    Visibility.Fits (conditions.reevaluate pending values map) conditions := by
  have names := Conditions.names_reevaluate fits.known pending values
  refine ⟨names ▸ fits.distinct, names ▸ fits.known, ?_⟩
  intro name known free
  rw [Conditions.get?_reevaluate distinct, Entries.get?_eq_none_iff.mpr free]
  exact fits.shown name (names ▸ known) free

end Visibility

end Formwork
