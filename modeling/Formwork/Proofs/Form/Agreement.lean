import Formwork.Proofs.Form.Serving
import Formwork.Proofs.Visibility.Agreement

/-! # Forms that come to the same

What a form shows once its tracker has heard of all changes depends on its fields and its
values, and not on what it was told has changed. So a form that begins with values shows what
one shows to which they are written later.
-/

namespace Formwork.Form

variable {form other : Form} {affected changed more : List String}

/-- Two forms that show the same fields with the same values. -/
structure Alike (form other : Form) : Prop where
  map : other.tracker.map = form.tracker.map
  payload : other.payload = form.payload

/-- The cycle of a form that has to evaluate some conditional fields. -/
def atHand (form : Form) (affected : List String) : Cycle :=
  { map := form.tracker.map, values := form.store.values, pending := affected }

theorem cycle_payload (distinct : form.tracker.conditions.names.Nodup)
    (fits : form.tracker.map.Fits form.tracker.conditions) (affected : List String) :
    (form.cycle affected).payload =
      ((form.atHand affected).settle form.tracker.conditions).shown := by
  have values : ((form.atHand affected).settle form.tracker.conditions).values =
      form.store.values.dropAll
        ((form.atHand affected).settle form.tracker.conditions).cleared :=
    (Cycle.settle_values distinct fits rfl).1
  rw [payload, cycle_values, Cycle.shown, values]
  rfl

/-! ## Cycles that do not stop short -/

/-- A cycle that evaluates some conditional fields leaves everything right, also where there
    is nothing to evaluate. -/
structure Covers (form : Form) (affected : List String) : Prop where
  distinct : form.tracker.conditions.names.Nodup
  sound : (form.atHand affected).Sound form.tracker.conditions
  calm : affected = [] → ((form.atHand affected).pass form.tracker.conditions).pending = []

theorem Covers.alike {evaluated : List String} (h : form.Covers affected)
    (h' : other.Covers evaluated)
    (conditions : other.tracker.conditions = form.tracker.conditions)
    (names : other.tracker.map.names = form.tracker.map.names)
    (values : other.store.values = form.store.values) :
    (form.cycle affected).Alike (other.cycle evaluated) := by
  have sound' := h'.sound
  have calm' := h'.calm
  rw [conditions] at sound' calm'
  obtain ⟨map, shown⟩ :=
    Cycle.settle_alike h.distinct h.sound sound' names values h.calm calm'
  constructor
  · show ((other.atHand evaluated).settle other.tracker.conditions).map = _
    rw [conditions]
    exact map
  · rw [cycle_payload h.distinct h.sound.fits, cycle_payload h'.distinct h'.sound.fits,
      conditions]
    exact shown

/-- Where changes are of no concern, no value that a condition reads is left to remove. -/
theorem RightBut.covers (h : form.RightBut changed) :
    form.Covers (form.tracker.conditions.affectedBy changed) := by
  have sound : (form.atHand (form.tracker.conditions.affectedBy changed)).Sound
      form.tracker.conditions := ⟨h.fits, h.right⟩
  refine ⟨h.distinct, sound, fun idle => ?_⟩
  show form.tracker.conditions.affectedBy (Cycle.removed _ _) = []
  rw [List.eq_nil_iff_forall_not_mem]
  -- whoever reads what is removed would have been concerned, as it was there only if it changed
  intro reader concerned
  obtain ⟨c, member, name, reads, removed⟩ := Conditions.mem_affectedBy.mp concerned
  obtain ⟨hidden, held⟩ := (Cycle.mem_removed h.distinct h.fits).mp removed
  rw [Cycle.pass_map_of_idle h.distinct sound idle] at hidden
  have unchanged : name ∉ changed := by
    intro hit
    have hears := Conditions.mem_affectedBy.mpr ⟨c, member, name, reads, hit⟩
    rw [idle] at hears
    cases hears
  rw [Entries.has, show (form.atHand _).values.get? name = none from
    h.absent name hidden ⟨_, member, reads⟩ unchanged] at held
  cases held

theorem covers_all (number : Nat) (store : Store) (fields : List Field) :
    Covers { tracker := Tracker.ofFields number fields, store }
      (Tracker.ofFields number fields).conditions.names := by
  refine ⟨Conditions.nodup_ofFields fields, Cycle.sound_all fields store.values, ?_⟩
  intro none
  have free : Conditions.ofFields fields = [] := List.map_eq_nil_iff.mp none
  show Conditions.affectedBy (Conditions.ofFields fields) _ = []
  rw [free]
  rfl

/-! ## Hearing of changes -/

theorem RightBut.hear_alike (h : form.RightBut changed)
    (quiet : form.tracker.isAnnouncing = false) :
    (form.cycle (form.tracker.conditions.affectedBy changed)).Alike (form.hear changed) := by
  have reacts := Tracker.reactsTo_quiet quiet changed
  unfold hear
  rw [reacts]
  split
  next none =>
    -- the form does not even start a cycle, and one would do nothing
    have idle : (form.atHand (form.tracker.conditions.affectedBy changed)).settle
        form.tracker.conditions =
          form.atHand (form.tracker.conditions.affectedBy changed) := by
      rw [Cycle.settle, Cycle.passes]
      exact if_pos none
    constructor
    · exact (congrArg Cycle.map idle).symm
    · rw [cycle_payload h.distinct h.fits, idle]
      rfl
  next => exact ⟨rfl, rfl⟩

theorem Alike.trans {third : Form} (h : form.Alike other) (h' : other.Alike third) :
    form.Alike third :=
  ⟨h'.map.trans h.map, h'.payload.trans h.payload⟩

theorem Alike.symm (h : form.Alike other) : other.Alike form :=
  ⟨h.map.symm, h.payload.symm⟩

/-- Whatever the tracker of a form was told has changed, as long as that is all that could
    matter, the form shows the same in the end. -/
theorem RightBut.hear_same (h : form.RightBut changed) (h' : other.RightBut more)
    (quiet : form.tracker.isAnnouncing = false) (tracker : other.tracker = form.tracker)
    (values : other.store.values = form.store.values) :
    (form.hear changed).Alike (other.hear more) := by
  have same := h.covers.alike h'.covers (congrArg Tracker.conditions tracker)
    (congrArg (·.map.names) tracker) values
  have quiet' : other.tracker.isAnnouncing = false := by
    rw [tracker]
    exact quiet
  exact ((h.hear_alike quiet).symm.trans same).trans (h'.hear_alike quiet')

theorem told_eq (distinct : form.tracker.map.names.Nodup) (names : List String) :
    form.told names = form.tells (form.hear names) := by
  have still : Visibility.flipped form.tracker.map form.tracker.map = [] :=
    (Visibility.flipped_eq_nil_iff rfl distinct).mpr rfl
  unfold told hear
  split
  · rw [tells, still]
    rfl
  · rfl

theorem RightBut.told_same (h : form.RightBut changed) (h' : other.RightBut more)
    (quiet : form.tracker.isAnnouncing = false) (tracker : other.tracker = form.tracker)
    (values : other.store.values = form.store.values) :
    other.told more = form.told changed := by
  have map := (h.hear_same h' quiet tracker values).map
  rw [told_eq h.fits.distinct, told_eq h'.fits.distinct, tells, tells, map, tracker]

theorem Sound.closeBatch_same (sound : form.Sound) (gathered : other.Sound)
    (outside : form.store.batchDepth = 0) (last : other.store.batchDepth ≤ 1)
    (tracker : other.tracker = form.tracker) {values : Entries Value}
    (plain : ∀ entry ∈ values, entry.2.Plain)
    (written : other.store.values = form.store.values.putAll values) :
    (form.write values).Alike other.closeBatch ∧
      other.toldOfClose = form.toldOfWrite values := by
  have changes := sound.written plain
  rw [sound.idle outside, List.nil_append] at changes
  have heard := changes.mono fun _ changed => Names.mem_distinct.mpr changed
  have closed := gathered.rightBut.of_values
    { other.store with batchDepth := 0, pending := [] } rfl
  rw [write_outside outside, toldOfWrite_outside outside, Form.closeBatch, toldOfClose,
    Store.closeBatch_last last]
  exact ⟨heard.hear_same closed sound.quiet tracker written,
    heard.told_same closed sound.quiet tracker written⟩

/-! ## Values at the beginning -/

theorem RightBut.overwritten (h : form.RightBut changed) {values : Entries Value}
    (within : values.names ⊆ more) :
    RightBut { form with store := form.store.write values } (changed ++ more) := by
  have kept : ∀ name, name ∉ more →
      (form.store.values.putAll values).get? name = form.store.values.get? name :=
    fun name unwritten =>
      Entries.get?_putAll_of_not_mem (fun written => unwritten (within written)) _
  apply h.change
  · intro name unwritten
    show Value.Alike _ (((form.store.values.putAll values).get? name).getD .null)
    rw [kept name unwritten]
    exact Value.Alike.refl _
  · intro name unwritten absent
    exact (kept name unwritten).trans absent

theorem RightBut.write_empty (h : form.RightBut []) (outside : form.store.batchDepth = 0)
    (empty : form.store.values = []) {values : Entries Value} (distinct : values.names.Nodup) :
    ∃ changed, form.write values =
        hear { form with store := form.store.write values } changed ∧
      RightBut { form with store := form.store.write values } changed ∧
      (form.store.write values).values = values := by
  refine ⟨_, write_outside outside values, h.overwritten ?_, ?_⟩
  · intro name written
    obtain ⟨entry, member, rfl⟩ := List.mem_map.mp written
    refine Names.mem_distinct.mpr (Names.mem_distinct.mpr (List.mem_map_of_mem ?_))
    rw [List.mem_filter, Store.isChange, empty]
    exact ⟨member, rfl⟩
  · show form.store.values.putAll values = values
    rw [empty]
    exact Entries.ofList_of_nodup distinct

/-- A form that begins with values shows what it shows if it begins without and they are
    written to it. -/
theorem begin_alike (number empty id : Nat) (fields : List Field) {values : Entries Value}
    (distinct : values.names.Nodup) :
    (Form.begin number { values } fields).Alike
      (((Form.begin empty {} fields).start id).write values) := by
  have right := begin_right empty {} fields
  have begun : ((Form.begin empty {} fields).start id).RightBut [] :=
    ⟨right.distinct, right.fits, right.right, right.absent⟩
  obtain ⟨changed, hears, right, written⟩ := begun.write_empty
    (begin_steady empty {} fields).batchDepth (cycle_values _ _) distinct
  have names : (Form.begin empty {} fields).tracker.map.names =
      (Visibility.all fields).names :=
    Cycle.names_settle (Visibility.fits_all fields) (Conditions.nodup_ofFields fields)
  rw [hears]
  exact ((covers_all number { values } fields).alike right.covers rfl names written).trans
    (right.hear_alike rfl)

/-- A form that begins with what another one of its schema shows, in any order, shows the same
    and loses none of it. -/
theorem Serves.begin_again {schema : Schema} (serves : form.Serves schema)
    (outside : form.store.batchDepth = 0)
    (names : form.tracker.map.names = (Visibility.all schema.fields).names) (number : Nat)
    {store : Store} (same : ∀ name, store.values.get? name = form.payload.get? name) :
    (Form.begin number store schema.fields).tracker.map = form.tracker.map ∧
      ∀ name, (Form.begin number store schema.fields).store.values.get? name =
        form.payload.get? name := by
  have right := serves.right outside
  have hides : ∀ name, form.tracker.map.get? name = some false →
      form.payload.get? name = none := by
    intro name hidden
    rw [get?_payload, not_isShown_iff.mpr hidden]
    rfl
  have again : RightBut { form with store } [] := by
    refine ⟨right.distinct, right.fits, ?_, ?_⟩
    · intro name c has unaffected
      rw [right.right name c has unaffected]
      apply congrArg some
      apply Condition.holds_eq_of_get?
      intro read reads
      rw [same, get?_payload]
      split
      · rfl
      next hidden =>
        rw [Bool.not_eq_true, not_isShown_iff] at hidden
        exact right.absent read hidden ⟨_, Entries.mem_of_get? has, reads⟩ List.not_mem_nil
    · intro name hidden _ _
      exact (same name).trans (hides name hidden)
  have alike := ((covers_all number store schema.fields).alike again.covers serves.conditions
    names rfl).trans (again.hear_alike serves.sound.quiet)
  rw [hear_nil] at alike
  refine ⟨alike.map.symm, fun name => ?_⟩
  have shown := congrArg (Entries.get? · name) alike.payload
  simp only [get?_payload, ← alike.map, same] at shown
  by_cases isShown : isShown (some form.tracker.map) name = true
  · simp only [if_pos isShown] at shown
    rw [get?_payload, if_pos isShown]
    exact shown.symm
  · rw [Bool.not_eq_true, not_isShown_iff] at isShown
    rw [hides name isShown]
    cases found : (Form.begin number store schema.fields).store.values.get? name with
    | none => rfl
    | some value =>
        -- a cycle only removes values, so there would have been one to begin with
        have given : store.values.get? name = some value := get?_of_cycle found
        rw [same, hides name isShown] at given
        cases given

end Formwork.Form
