import Formwork.Proofs.Form.Basic

/-! # What holds of a form

The map of a form is right for every field whose condition refers to none of the changes
that the tracker has not heard of, and a field that is hidden while conditions refer to it
has no value unless that is such a change. Outside of batches there is no such change. Every
operation keeps this, because a change that a condition could notice is recorded.
-/

namespace Formwork

/-- What is no change when values are written was not written, or over a value that does not
    differ. -/
theorem Store.not_written_or_same {store : Store} {values : Entries Value} {name : String}
    (unchanged : name ∉ store.changes values) :
    name ∉ values.names ∨ ∃ old new, store.values.get? name = some old ∧
      (store.values.putAll values).get? name = some new ∧ (name, new) ∈ values ∧
        old.differs new = false := by
  by_cases known : name ∈ values.names
  · obtain ⟨new, member, reads⟩ := Entries.get?_putAll_of_mem known store.values
    have same : store.isChange name new = false := by
      by_contra change
      rw [Bool.not_eq_false] at change
      exact unchanged (Names.mem_distinct.mpr (List.mem_map.mpr
        ⟨(name, new), List.mem_filter.mpr ⟨member, change⟩, rfl⟩))
    unfold Store.isChange at same
    split at same
    next old had => exact .inr ⟨old, new, had, reads, member, same⟩
    next => cases same
  · exact .inl known

/-- Some condition refers to a field. -/
def Conditions.Watches (conditions : Conditions) (name : String) : Prop :=
  ∃ entry ∈ conditions, name ∈ entry.2.references

namespace Form

/-- What holds of a form, apart from what changed fields have to do with. -/
structure RightBut (form : Form) (changed : List String) : Prop where
  distinct : form.tracker.conditions.names.Nodup
  fits : form.tracker.map.Fits form.tracker.conditions
  right : ∀ name c, form.tracker.conditions.get? name = some c →
    name ∉ form.tracker.conditions.affectedBy changed →
    form.tracker.map.get? name = some (c.holds form.store.values)
  absent : ∀ name, form.tracker.map.get? name = some false →
    form.tracker.conditions.Watches name → name ∉ changed →
    form.store.values.get? name = none

/-- What holds of a form between the operations on it. -/
structure Sound (form : Form) : Prop where
  quiet : form.tracker.isAnnouncing = false
  rightBut : form.RightBut form.store.pending
  idle : form.store.batchDepth = 0 → form.store.pending = []
  plain : ∀ name value, form.store.values.get? name = some value → value.Plain

variable {form : Form} {changed : List String}

theorem RightBut.mono {more : List String} (h : form.RightBut changed)
    (within : changed ⊆ more) : form.RightBut more where
  distinct := h.distinct
  fits := h.fits
  right := fun name c has unaffected =>
    h.right name c has fun hit => unaffected (Conditions.affectedBy_mono within hit)
  absent := fun name hidden watched unchanged =>
    h.absent name hidden watched fun hit => unchanged (within hit)

theorem RightBut.of_values (h : form.RightBut changed) (store : Store)
    (same : store.values = form.store.values) :
    RightBut { form with store } changed where
  distinct := h.distinct
  fits := h.fits
  right := fun name c has unaffected => by
    show form.tracker.map.get? name = some (c.holds store.values)
    rw [same]
    exact h.right name c has unaffected
  absent := fun name hidden watched unchanged => by
    show store.values.get? name = none
    rw [same]
    exact h.absent name hidden watched unchanged

theorem RightBut.change {stale : List String} {store : Store} (h : form.RightBut stale)
    (alike : ∀ name, name ∉ changed →
      (form.store.values.value name).Alike (store.values.value name))
    (gone : ∀ name, name ∉ changed → form.store.values.get? name = none →
      store.values.get? name = none) :
    RightBut { form with store } (stale ++ changed) where
  distinct := h.distinct
  fits := h.fits
  right := by
    intro name c has unaffected
    have old := h.right name c has fun hit =>
      unaffected (Conditions.affectedBy_mono (List.subset_append_left _ _) hit)
    rw [old]
    apply congrArg some
    apply Condition.holds_congr
    intro read reads
    have untouched := Conditions.not_mem_of_not_affected has unaffected reads
    exact alike read fun hit => untouched (List.mem_append_right _ hit)
  absent := by
    intro name hidden watched unchanged
    rw [List.mem_append, not_or] at unchanged
    exact gone name unchanged.2 (h.absent name hidden watched unchanged.1)

theorem Sound.of_same {later : Form} (sound : form.Sound)
    (conditions : later.tracker.conditions = form.tracker.conditions)
    (map : later.tracker.map = form.tracker.map)
    (announcing : later.tracker.isAnnouncing = form.tracker.isAnnouncing)
    (values : later.store.values = form.store.values)
    (pending : later.store.pending = form.store.pending)
    (batchDepth : later.store.batchDepth = form.store.batchDepth) : later.Sound := by
  have rightBut := sound.rightBut
  refine ⟨announcing.trans sound.quiet, ⟨?_, ?_, ?_, ?_⟩, ?_, ?_⟩
  · rw [conditions]
    exact rightBut.distinct
  · rw [conditions, map]
    exact rightBut.fits
  · rw [conditions, map, values, pending]
    exact rightBut.right
  · rw [conditions, map, values, pending]
    exact rightBut.absent
  · rw [batchDepth, pending]
    exact sound.idle
  · rw [values]
    exact sound.plain

/-! ## Hearing of changes -/

/-- A cycle settles a form whose map is right for all conditional fields but some, if these
    are evaluated. -/
theorem cycle_right (form : Form) {affected : List String}
    (distinct : form.tracker.conditions.names.Nodup)
    (sound : Cycle.Sound form.tracker.conditions
      { map := form.tracker.map, values := form.store.values, pending := affected })
    (start : affected = [] → form.tracker.conditions = []) :
    (form.cycle affected).RightBut [] := by
  have settled := Cycle.settle_settled distinct sound start
  have values : (form.cycle affected).store.values =
      (form.tracker.cycle affected form.store.values).values := by
    rw [cycle_values]
    exact (Cycle.settle_values distinct sound.fits rfl).1.symm
  refine ⟨distinct, settled.fits, ?_, ?_⟩
  · intro name c has _
    rw [values]
    exact settled.right name c has
  · intro name hidden _ _
    rw [values]
    exact settled.absent name hidden

theorem hear_right (h : form.RightBut changed) (quiet : form.tracker.isAnnouncing = false)
    {names : List String} (covers : changed ⊆ names) : (form.hear names).RightBut [] := by
  have reacts := Tracker.reactsTo_quiet quiet names
  have told := h.mono covers
  unfold hear
  rw [reacts]
  split
  next none =>
    rw [List.isEmpty_iff] at none
    refine ⟨h.distinct, h.fits, ?_, ?_⟩
    · intro name c has _
      exact told.right name c has (none ▸ List.not_mem_nil)
    · rintro name hidden ⟨⟨reader, c⟩, member, reads⟩ _
      -- a change of what a condition refers to would have concerned that condition
      refine told.absent name hidden ⟨_, member, reads⟩ fun hit => ?_
      have affected : reader ∈ form.tracker.conditions.affectedBy names :=
        Conditions.mem_affectedBy.mpr ⟨c, member, name, reads, hit⟩
      rw [none] at affected
      cases affected
  next some =>
    exact cycle_right form h.distinct ⟨h.fits, told.right⟩
      fun empty => absurd (by simp [empty]) some

/-! ## Operations -/

theorem hear_sound (h : form.RightBut changed) (quiet : form.tracker.isAnnouncing = false)
    (outside : form.store.batchDepth = 0) (idle : form.store.pending = [])
    (plain : ∀ name value, form.store.values.get? name = some value → value.Plain)
    {names : List String} (covers : changed ⊆ names) : (form.hear names).Sound where
  quiet := by rw [(hear_steady form names).tracker, quiet]
  rightBut := (hear_right h quiet covers).mono (List.nil_subset _)
  idle := fun _ => (hear_pending outside names).trans idle
  plain := fun name value reads => plain name value (get?_of_hear reads)

theorem record_sound (h : form.RightBut (form.store.pending ++ changed))
    (quiet : form.tracker.isAnnouncing = false)
    (idle : form.store.batchDepth = 0 → form.store.pending = [])
    (plain : ∀ name value, form.store.values.get? name = some value → value.Plain) :
    (form.record changed).Sound := by
  unfold record
  by_cases outside : form.store.batchDepth = 0
  · rw [Store.record_outside outside]
    refine hear_sound h quiet outside (idle outside) plain ?_
    rw [idle outside]
    exact fun name member => Names.mem_distinct.mpr member
  · rw [Store.record_inside outside, hear_nil]
    have waits : form.store.pending ++ changed ⊆
        Names.distinct (form.store.pending ++ changed) :=
      fun name member => Names.mem_distinct.mpr member
    exact ⟨quiet, (h.mono waits).of_values _ rfl, fun inside => absurd inside outside, plain⟩

/-- Writing values that are plain changes nothing that a condition could notice, but what the
    store takes for a change. -/
theorem Sound.written (sound : form.Sound) {values : Entries Value}
    (plain : ∀ entry ∈ values, entry.2.Plain) :
    RightBut { form with store := form.store.write values }
      (form.store.pending ++ form.store.changes values) := by
  have untouched : ∀ name, name ∉ form.store.changes values →
      (form.store.values.putAll values).get? name = form.store.values.get? name ∨
        ∃ old new, form.store.values.get? name = some old ∧
          (form.store.values.putAll values).get? name = some new ∧ old.Alike new := by
    intro name unchanged
    rcases Store.not_written_or_same unchanged with unwritten | ⟨old, new, had, reads, member, same⟩
    · exact .inl (Entries.get?_putAll_of_not_mem unwritten form.store.values)
    · exact .inr ⟨old, new, had, reads, Value.alike_of_not_differs
        (sound.plain name old had) (plain _ member) same⟩
  apply sound.rightBut.change
  · intro name unchanged
    rcases untouched name unchanged with same | ⟨old, new, had, reads, alike⟩
    · show Value.Alike ((form.store.values.get? name).getD .null)
        (((form.store.values.putAll values).get? name).getD .null)
      rw [same]
      exact Value.Alike.refl _
    · show Value.Alike ((form.store.values.get? name).getD .null)
        (((form.store.values.putAll values).get? name).getD .null)
      rw [had, reads]
      exact alike
  · intro name unchanged absent
    rcases untouched name unchanged with same | ⟨old, new, had, reads, alike⟩
    · exact same.trans absent
    · rw [had] at absent
      cases absent

theorem Sound.write (sound : form.Sound) {values : Entries Value}
    (plain : ∀ entry ∈ values, entry.2.Plain) : (form.write values).Sound :=
  record_sound (sound.written plain) sound.quiet sound.idle
    (Entries.forall_get?_putAll sound.plain plain)

theorem Sound.clear (sound : form.Sound) (names : List String) : (form.clear names).Sound := by
  have reads : ∀ name, (form.store.remove (form.store.present names)).values.get? name =
      if name ∈ form.store.present names then none else form.store.values.get? name :=
    Entries.get?_dropAll form.store.values (form.store.present names)
  refine record_sound (sound.rightBut.change ?_ ?_) sound.quiet sound.idle ?_
  · intro name kept
    rw [Entries.value, Entries.value, reads, if_neg kept]
    exact Value.Alike.refl _
  · intro name kept absent
    rw [reads, if_neg kept, absent]
  · intro name value found
    rw [reads] at found
    split at found
    · cases found
    · exact sound.plain name value found

theorem Sound.openBatch (sound : form.Sound) : form.openBatch.Sound where
  quiet := sound.quiet
  rightBut := sound.rightBut.of_values _ rfl
  idle := fun inside => absurd inside (Nat.succ_ne_zero _)
  plain := sound.plain

theorem Sound.closeBatch (sound : form.Sound) : form.closeBatch.Sound := by
  unfold Form.closeBatch
  by_cases last : form.store.batchDepth ≤ 1
  · rw [Store.closeBatch_last last]
    have still := sound.rightBut.of_values
      { form.store with batchDepth := 0, pending := [] } rfl
    exact hear_sound still sound.quiet rfl rfl sound.plain (List.Subset.refl _)
  · rw [Store.closeBatch_inner last, hear_nil]
    refine ⟨sound.quiet, sound.rightBut.of_values _ rfl, fun inside => ?_, sound.plain⟩
    simp only at inside
    omega

theorem begin_right (number : Nat) (store : Store) (fields : List Field) :
    (Form.begin number store fields).RightBut [] :=
  cycle_right { tracker := Tracker.ofFields number fields, store }
    (Conditions.nodup_ofFields fields) (Cycle.sound_all fields store.values)
    fun none => List.map_eq_nil_iff.mp none

/-- A new form is sound, whatever the store holds and whether or not a batch is open. -/
theorem begin_sound (number : Nat) {store : Store} (fields : List Field)
    (idle : store.batchDepth = 0 → store.pending = [])
    (plain : ∀ name value, store.values.get? name = some value → value.Plain) :
    (Form.begin number store fields).Sound := by
  refine ⟨rfl, (begin_right number store fields).mono (List.nil_subset _), ?_, ?_⟩
  · intro outside
    have depth : (Form.begin number store fields).store.batchDepth = store.batchDepth :=
      (cycle_steady _ _).batchDepth
    rw [depth] at outside
    exact (cycle_pending outside _).trans (idle outside)
  · intro name value reads
    exact plain name value (get?_of_cycle reads)

end Form

end Formwork
