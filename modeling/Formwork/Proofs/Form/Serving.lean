import Formwork.Proofs.Form.Sound

/-! # Forms of a schema

Between the operations on it, a form of a schema shows a declared field, outside of batches,
just when the current values ask for it; a hidden field that conditions refer to has no value.
So conditions cannot tell the values that are shown from all values.
-/

namespace Formwork

namespace Schema

/-- A condition that counts refers to a field. -/
def Watches (schema : Schema) (name : String) : Prop :=
  ∃ reader field c, schema.field? reader = some field ∧ field.condition = some c ∧
    name ∈ c.references

theorem get?_conditions (schema : Schema) (name : String) :
    (Conditions.ofFields schema.fields).get? name =
      (schema.field? name).bind (·.condition) :=
  Conditions.get?_ofFields schema.fields name

end Schema

namespace Form

/-- The form is one of a schema, and sound. -/
structure Serves (form : Form) (schema : Schema) : Prop where
  conditions : form.tracker.conditions = Conditions.ofFields schema.fields
  known : schema.fieldNames ⊆ form.tracker.map.names
  sound : form.Sound

variable {form : Form} {schema : Schema}

theorem Serves.later {later : Form} {depth : Nat} (serves : form.Serves schema)
    (steady : (form.counting depth).Steady later) (sound : later.Sound) :
    later.Serves schema where
  conditions := steady.conditions.trans serves.conditions
  known := List.Subset.trans serves.known steady.names
  sound := sound

theorem begin_serves (number : Nat) {store : Store} (schema : Schema)
    (idle : store.batchDepth = 0 → store.pending = [])
    (plain : ∀ name value, store.values.get? name = some value → value.Plain) :
    (Form.begin number store schema.fields).Serves schema where
  conditions := (begin_steady number store schema.fields).conditions
  known := fun _ declared =>
    (begin_steady number store schema.fields).names (Visibility.mem_names_all.mpr declared)
  sound := begin_sound number schema.fields idle plain

/-- Whether the tracker listens does not matter to what it has made of the form so far. -/
theorem Serves.start (serves : form.Serves schema) (number : Nat) :
    (form.start number).Serves schema where
  conditions := serves.conditions
  known := serves.known
  sound := serves.sound.of_same rfl rfl rfl rfl rfl rfl

/-! ## What is shown -/

theorem Serves.right (serves : form.Serves schema) (outside : form.store.batchDepth = 0) :
    form.RightBut [] := by
  have right := serves.sound.rightBut
  rw [serves.sound.idle outside] at right
  exact right

theorem Serves.shows (serves : form.Serves schema) (outside : form.store.batchDepth = 0)
    {name : String} {field : Field} (declared : schema.field? name = some field) :
    form.tracker.map.get? name = some (field.isDue form.store.values) := by
  have right := serves.right outside
  have reads : form.tracker.conditions.get? name = field.condition := by
    rw [serves.conditions, Schema.get?_conditions, declared]
    rfl
  cases has : field.condition with
  | none =>
      have free : name ∉ form.tracker.conditions.names := by
        rw [← Entries.get?_eq_none_iff, reads, has]
      have known : name ∈ schema.fieldNames :=
        Field.last?_isSome_iff.mp (Option.isSome_iff_exists.mpr ⟨field, declared⟩)
      rw [right.fits.shown name (serves.known known) free, Field.isDue, has]
      rfl
  | some c =>
      have unaffected : name ∉ form.tracker.conditions.affectedBy [] := by
        rw [Conditions.affectedBy_nil]
        exact List.not_mem_nil
      rw [right.right name c (reads.trans has) unaffected, Field.isDue, has]
      rfl

theorem Serves.watches_iff (serves : form.Serves schema) {name : String} :
    form.tracker.conditions.Watches name ↔ schema.Watches name := by
  have reads (reader : String) : form.tracker.conditions.get? reader =
      (schema.field? reader).bind (·.condition) := by
    rw [serves.conditions, Schema.get?_conditions]
  constructor
  · rintro ⟨⟨reader, c⟩, member, refers⟩
    have listed := Entries.get?_of_mem serves.sound.rightBut.distinct member
    rw [reads, Option.bind_eq_some_iff] at listed
    obtain ⟨field, declared, has⟩ := listed
    exact ⟨reader, field, c, declared, has, refers⟩
  · rintro ⟨reader, field, c, declared, has, refers⟩
    have listed : form.tracker.conditions.get? reader = some c := by
      rw [reads, declared]
      exact has
    exact ⟨_, Entries.mem_of_get? listed, refers⟩

theorem Serves.absent (serves : form.Serves schema) (outside : form.store.batchDepth = 0)
    {name : String} (hidden : form.tracker.map.get? name = some false)
    (watched : schema.Watches name) : form.store.values.get? name = none :=
  (serves.right outside).absent name hidden (serves.watches_iff.mpr watched) List.not_mem_nil

theorem Serves.free (serves : form.Serves schema) {name : String}
    (unconditional : ∀ field, schema.field? name = some field → field.condition = none) :
    name ∉ form.tracker.conditions.names := by
  rw [← Entries.get?_eq_none_iff, serves.conditions, Schema.get?_conditions]
  cases declared : schema.field? name with
  | none => rfl
  | some field => exact unconditional field declared

theorem get?_payload (form : Form) (name : String) :
    form.payload.get? name =
      if isShown (some form.tracker.map) name then form.store.values.get? name else none :=
  Entries.get?_filter form.store.values (isShown (some form.tracker.map)) name

theorem not_isShown_iff {map : Visibility} {name : String} :
    isShown (some map) name = false ↔ map.get? name = some false := by
  show (map.get? name).getD true = false ↔ map.get? name = some false
  cases map.get? name with
  | none => simp
  | some shown => simp

theorem Serves.holds_payload (serves : form.Serves schema)
    (outside : form.store.batchDepth = 0) {reader : String} {field : Field} {c : Condition}
    (declared : schema.field? reader = some field) (has : field.condition = some c) :
    c.holds form.payload = c.holds form.store.values := by
  apply Condition.holds_eq_of_get?
  intro name reads
  rw [get?_payload]
  split
  · rfl
  next hidden =>
    rw [Bool.not_eq_true, not_isShown_iff] at hidden
    exact (serves.absent outside hidden ⟨reader, field, c, declared, has, reads⟩).symm

theorem Serves.isDue_payload (serves : form.Serves schema)
    (outside : form.store.batchDepth = 0) {name : String} {field : Field}
    (declared : schema.field? name = some field) :
    field.isDue form.payload = field.isDue form.store.values := by
  unfold Field.isDue
  cases has : field.condition with
  | none => rfl
  | some c => exact serves.holds_payload outside declared has

theorem Serves.payload_closed (serves : form.Serves schema)
    (outside : form.store.batchDepth = 0) {name : String} {field : Field}
    (declared : schema.field? name = some field) (undue : field.isDue form.payload = false) :
    form.payload.get? name = none := by
  have shown := serves.shows outside declared
  rw [← serves.isDue_payload outside declared, undue, ← not_isShown_iff] at shown
  rw [get?_payload, shown]
  rfl

/-- A field that the values shown ask for is shown, so they hold what all values hold. -/
theorem Serves.payload_open (serves : form.Serves schema)
    (outside : form.store.batchDepth = 0) {name : String} {field : Field}
    (declared : schema.field? name = some field) (due : field.isDue form.payload = true) :
    isShown (some form.tracker.map) name = true ∧
      form.payload.get? name = form.store.values.get? name := by
  have shown : isShown (some form.tracker.map) name = true := by
    rw [← Bool.not_eq_false, not_isShown_iff, serves.shows outside declared,
      ← serves.isDue_payload outside declared, due]
    simp
  rw [get?_payload, if_pos shown]
  exact ⟨shown, rfl⟩

end Form

end Formwork
