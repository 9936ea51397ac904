import Formwork.Proofs.Form.Serving

/-! # Several writes

Values are written to a form one after another, and each write can hide fields, which lose
their values. What a form holds in the end was written last, or was there before and not
written over. Fields without a condition hold all of that.
-/

namespace Formwork.Form

variable {form : Form}

def writeAll (form : Form) (edits : List (Entries Value)) : Form := edits.foldl write form

theorem writeAll_cons (form : Form) (values : Entries Value) (edits : List (Entries Value)) :
    form.writeAll (values :: edits) = (form.write values).writeAll edits := rfl

theorem write_fits (distinct : form.tracker.conditions.names.Nodup)
    (fits : form.tracker.map.Fits form.tracker.conditions) (values : Entries Value) :
    (form.write values).tracker.map.Fits form.tracker.conditions := by
  rw [write, record, hear]
  split
  · exact fits
  · exact Cycle.settle_fits distinct fits

theorem write_names (distinct : form.tracker.conditions.names.Nodup)
    (fits : form.tracker.map.Fits form.tracker.conditions) (values : Entries Value) :
    (form.write values).tracker.map.names = form.tracker.map.names := by
  rw [write, record, hear]
  split
  · rfl
  · exact Cycle.names_settle fits distinct

/-- A form holds given values, but for some that conditional fields have lost. -/
structure DrawnFrom (form : Form) (given : Entries Value) : Prop where
  distinct : form.tracker.conditions.names.Nodup
  fits : form.tracker.map.Fits form.tracker.conditions
  held : ∀ name value, form.store.values.get? name = some value →
    given.get? name = some value
  free : ∀ name, name ∉ form.tracker.conditions.names →
    form.store.values.get? name = given.get? name

theorem Sound.drawnFrom (sound : form.Sound) : form.DrawnFrom form.store.values where
  distinct := sound.rightBut.distinct
  fits := sound.rightBut.fits
  held := fun _ _ found => found
  free := fun _ _ => rfl

theorem DrawnFrom.write {given : Entries Value} (drawn : form.DrawnFrom given)
    (values : Entries Value) : (form.write values).DrawnFrom (given.putAll values) := by
  have conditions := (write_steady form values).conditions
  obtain ⟨cleared, within, kept⟩ := write_loses drawn.distinct drawn.fits values
  refine ⟨?_, ?_, ?_, ?_⟩
  · rw [conditions]
    exact drawn.distinct
  · rw [conditions]
    exact write_fits drawn.distinct drawn.fits values
  · intro name value found
    rw [kept, Entries.get?_dropAll] at found
    split at found
    next => cases found
    next =>
      rw [Entries.get?_putAll] at found ⊢
      cases written : Entries.get? values.reverse name with
      | some last =>
          rw [written] at found
          exact found
      | none =>
          rw [written] at found
          exact drawn.held name value found
  · intro name free
    rw [conditions] at free
    have stays : name ∉ cleared := fun lost => free (within lost)
    rw [kept, Entries.get?_dropAll, if_neg stays, Entries.get?_putAll, Entries.get?_putAll,
      drawn.free name free]

theorem DrawnFrom.writeAll {given : Entries Value} (drawn : form.DrawnFrom given)
    (edits : List (Entries Value)) :
    (form.writeAll edits).DrawnFrom (given.putAll edits.flatten) := by
  induction edits generalizing form given with
  | nil => exact drawn
  | cons values rest ih =>
      -- later writes are over what the first one left of the values given so far
      have all : given.putAll (values ++ rest.flatten) =
          (given.putAll values).putAll rest.flatten := List.foldl_append
      rw [writeAll_cons, List.flatten_cons, all]
      exact ih (drawn.write values)

/-! ## Writes that no condition can notice -/

theorem hear_unwatched {names : List String}
    (unread : ∀ name ∈ names, ¬form.tracker.conditions.Watches name) :
    form.hear names = form := by
  have nothing : form.tracker.conditions.affectedBy names = [] := by
    rw [List.eq_nil_iff_forall_not_mem]
    intro reader affected
    obtain ⟨c, member, name, reads, changed⟩ := Conditions.mem_affectedBy.mp affected
    exact unread name changed ⟨_, member, reads⟩
  simp only [hear, Tracker.reactsTo, nothing, ite_self, List.isEmpty_nil, if_true]

theorem write_unwatched {values : Entries Value}
    (unread : ∀ name ∈ values.names, ¬form.tracker.conditions.Watches name) :
    (form.write values).tracker = form.tracker ∧
      (form.write values).store.values = form.store.values.putAll values := by
  let recorded := (form.store.write values).record (form.store.changes values)
  have told : ∀ name ∈ recorded.1, name ∈ values.names := by
    intro name member
    simp only [recorded, Store.record] at member
    split at member
    · obtain ⟨entry, kept, rfl⟩ :=
        List.mem_map.mp (Names.mem_distinct.mp (Names.mem_distinct.mp member))
      exact List.mem_map_of_mem (List.mem_of_mem_filter kept)
    · cases member
  have silent : hear { form with store := recorded.2 } recorded.1 =
      { form with store := recorded.2 } :=
    hear_unwatched fun name member => unread name (told name member)
  show (hear { form with store := recorded.2 } recorded.1).tracker = form.tracker ∧
    (hear { form with store := recorded.2 } recorded.1).store.values =
      form.store.values.putAll values
  rw [silent]
  exact ⟨rfl, (Store.record_keeps _ _).1⟩

theorem writeAll_unwatched {edits : List (Entries Value)}
    (unread : ∀ name ∈ Entries.names edits.flatten, ¬form.tracker.conditions.Watches name) :
    (form.writeAll edits).tracker = form.tracker ∧
      (form.writeAll edits).store.values = form.store.values.putAll edits.flatten := by
  induction edits generalizing form with
  | nil => exact ⟨rfl, rfl⟩
  | cons values rest ih =>
      have names : Entries.names (values :: rest).flatten =
          values.names ++ Entries.names rest.flatten := List.map_append
      rw [names, List.forall_mem_append] at unread
      obtain ⟨tracker, written⟩ := write_unwatched unread.1
      have unreadLater : ∀ name ∈ Entries.names rest.flatten,
          ¬(form.write values).tracker.conditions.Watches name := tracker.symm ▸ unread.2
      obtain ⟨still, later⟩ := ih unreadLater
      refine ⟨still.trans tracker, later.trans ?_⟩
      rw [written, List.flatten_cons]
      exact List.foldl_append.symm

/-! ## What is shown in the end -/

theorem DrawnFrom.of_payload {given : Entries Value} (drawn : form.DrawnFrom given)
    {name : String} {value : Value} (found : form.payload.get? name = some value) :
    given.get? name = some value := by
  rw [get?_payload] at found
  split at found
  · exact drawn.held name value found
  · cases found

theorem DrawnFrom.payload_free {given : Entries Value} (drawn : form.DrawnFrom given)
    {name : String} (free : name ∉ form.tracker.conditions.names) :
    form.payload.get? name = given.get? name := by
  have shown : isShown (some form.tracker.map) name = true := by
    rw [← Bool.not_eq_false, not_isShown_iff]
    exact fun hidden => free (drawn.fits.conditional hidden)
  rw [get?_payload, if_pos shown]
  exact drawn.free name free

/-- What is written to fields that no condition refers to changes nothing else that is shown. -/
theorem payload_writeAll_unwatched {edits : List (Entries Value)}
    (unread : ∀ name ∈ Entries.names edits.flatten, ¬form.tracker.conditions.Watches name)
    {name : String} (unwritten : name ∉ Entries.names edits.flatten) :
    (form.writeAll edits).payload.get? name = form.payload.get? name := by
  obtain ⟨tracker, values⟩ := writeAll_unwatched unread
  rw [get?_payload, get?_payload, tracker, values, Entries.get?_putAll_of_not_mem unwritten]

theorem writeAll_steady (form : Form) (edits : List (Entries Value)) :
    form.Steady (form.writeAll edits) := by
  induction edits generalizing form with
  | nil => exact .refl form
  | cons values rest ih => exact (write_steady form values).trans (ih (form.write values))

end Formwork.Form
