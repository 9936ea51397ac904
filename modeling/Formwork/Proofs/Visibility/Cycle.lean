import Formwork.Proofs.Visibility.Conditions

/-! # Cycles come to an end

Each pass of a cycle but the last removes the value of at least one conditional field, and a
removed value does not come back within the cycle. So there are never more passes with
something to remove than conditional fields, whatever the conditions are and however they
refer to one another, and a cycle ends because nothing is pending. Between passes the map is
right for all conditional fields that are not pending.
-/

namespace Formwork.Cycle

variable {conditions : Conditions} {cycle : Cycle}

/-- The fields whose values a pass removes. -/
def removed (conditions : Conditions) (cycle : Cycle) : List String :=
  (Visibility.hidden (conditions.reevaluate cycle.pending cycle.values cycle.map)).filter
    cycle.values.has

/-- What holds of a cycle between passes. -/
structure Sound (conditions : Conditions) (cycle : Cycle) : Prop where
  fits : cycle.map.Fits conditions
  right : ∀ name c, conditions.get? name = some c → name ∉ cycle.pending →
    cycle.map.get? name = some (c.holds cycle.values)

/-- The same, where some fields do not count: nothing is said of conditions that read them. -/
structure SoundBut (stale : String → Prop) (conditions : Conditions) (cycle : Cycle) : Prop where
  fits : cycle.map.Fits conditions
  right : ∀ name c, conditions.get? name = some c → (∀ read ∈ c.references, ¬stale read) →
    name ∉ cycle.pending → cycle.map.get? name = some (c.holds cycle.values)

theorem Sound.but (sound : cycle.Sound conditions) : cycle.SoundBut (fun _ => False) conditions :=
  ⟨sound.fits, fun name c has _ => sound.right name c has⟩

/-- A cycle with nothing left to do: the map is right, and hidden fields have no value. -/
structure Settled (conditions : Conditions) (cycle : Cycle) : Prop where
  fits : cycle.map.Fits conditions
  done : cycle.pending = []
  right : ∀ name c, conditions.get? name = some c →
    cycle.map.get? name = some (c.holds cycle.values)
  absent : ∀ name, cycle.map.get? name = some false → cycle.values.get? name = none

theorem sound_all (fields : List Field) (values : Entries Value) :
    Sound (Conditions.ofFields fields) { map := Visibility.all fields, values
                                         pending := (Conditions.ofFields fields).names } := by
  refine ⟨Visibility.fits_all fields, fun name c has waiting => absurd ?_ waiting⟩
  rw [← Entries.get?_isSome_iff, has]
  rfl

/-! ## One pass -/

theorem mem_removed (distinct : conditions.names.Nodup) (fits : cycle.map.Fits conditions)
    {name : String} : name ∈ cycle.removed conditions ↔
      (cycle.pass conditions).map.get? name = some false ∧ cycle.values.has name = true := by
  rw [removed, List.mem_filter,
    Visibility.mem_hidden (fits.reevaluate distinct cycle.pending cycle.values).distinct]
  rfl

theorem pass_fits (distinct : conditions.names.Nodup) (fits : cycle.map.Fits conditions) :
    (cycle.pass conditions).map.Fits conditions :=
  fits.reevaluate distinct cycle.pending cycle.values

theorem removed_subset (distinct : conditions.names.Nodup)
    (fits : cycle.map.Fits conditions) : cycle.removed conditions ⊆ conditions.names :=
  fun _ member => (pass_fits distinct fits).conditional ((mem_removed distinct fits).mp member).1

theorem SoundBut.pass_right {stale : String → Prop} (distinct : conditions.names.Nodup)
    (sound : cycle.SoundBut stale conditions) {name : String} {c : Condition}
    (has : conditions.get? name = some c) (fresh : ∀ read ∈ c.references, ¬stale read) :
    (cycle.pass conditions).map.get? name = some (c.holds cycle.values) := by
  show Entries.get? (conditions.reevaluate cycle.pending cycle.values cycle.map) name = _
  simp only [Conditions.get?_reevaluate distinct, has]
  split
  next => rfl
  next waiting => exact sound.right name c has fresh waiting

theorem pass_right (distinct : conditions.names.Nodup) (sound : cycle.Sound conditions)
    {name : String} {c : Condition} (has : conditions.get? name = some c) :
    (cycle.pass conditions).map.get? name = some (c.holds cycle.values) :=
  sound.but.pass_right distinct has fun _ _ => id

/-- What the map has right before values are removed is right after that, or it reads one of them
    and is pending. -/
theorem pass_pending_or_right {name : String} {c : Condition}
    (has : conditions.get? name = some c)
    (right : (cycle.pass conditions).map.get? name = some (c.holds cycle.values)) :
    name ∈ (cycle.pass conditions).pending ∨
      (cycle.pass conditions).map.get? name = some (c.holds (cycle.pass conditions).values) := by
  by_cases affected : name ∈ (cycle.pass conditions).pending
  · exact .inl affected
  · refine .inr (right.trans (congrArg some ?_))
    refine Conditions.holds_eq_of_not_affected has affected fun read kept => ?_
    have unremoved : read ∉ cycle.removed conditions := kept
    show _ = Entries.value (cycle.values.dropAll (cycle.removed conditions)) read
    rw [Entries.value, Entries.value, Entries.get?_dropAll, if_neg unremoved]

/-- Evaluating what is pending makes the map right; removing values then makes it wrong at
    most for what reads them, and that is pending next. -/
theorem SoundBut.pass {stale : String → Prop} (distinct : conditions.names.Nodup)
    (sound : cycle.SoundBut stale conditions) :
    (cycle.pass conditions).SoundBut stale conditions := by
  refine ⟨pass_fits distinct sound.fits, ?_⟩
  intro name c has fresh unaffected
  exact (pass_pending_or_right has (sound.pass_right distinct has fresh)).resolve_left unaffected

theorem pass_absent (distinct : conditions.names.Nodup) (fits : cycle.map.Fits conditions)
    (name : String) (hidden : (cycle.pass conditions).map.get? name = some false) :
    (cycle.pass conditions).values.get? name = none := by
  show Entries.get? (cycle.values.dropAll (cycle.removed conditions)) name = none
  rw [Entries.get?_dropAll]
  split
  next => rfl
  next kept =>
    rw [mem_removed distinct fits, not_and, Bool.not_eq_true] at kept
    exact Entries.get?_eq_none_of_not_has (kept hidden)

/-! ## All passes -/

theorem passes_of_pass {p : Cycle → Prop}
    (step : ∀ cycle, p cycle → cycle.pending ≠ [] → p (cycle.pass conditions)) (limit : Nat)
    (start : p cycle) : p (cycle.passes conditions limit) := by
  induction limit generalizing cycle with
  | zero => exact start
  | succ limit ih =>
      rw [passes]
      split
      next => exact start
      next busy => exact ih (step cycle start (by simpa using busy))

theorem passes_absent (distinct : conditions.names.Nodup) (fits : cycle.map.Fits conditions)
    (absent : ∀ name, cycle.map.get? name = some false → cycle.values.get? name = none)
    (limit : Nat) : ∀ name, (cycle.passes conditions limit).map.get? name = some false →
      (cycle.passes conditions limit).values.get? name = none := by
  refine (passes_of_pass (p := fun cycle => cycle.map.Fits conditions ∧ ∀ name,
    cycle.map.get? name = some false → cycle.values.get? name = none) ?_ limit
    ⟨fits, absent⟩).2
  rintro cycle ⟨fits, -⟩ -
  exact ⟨pass_fits distinct fits, pass_absent distinct fits⟩

/-- The conditional fields that have a value. -/
def held (conditions : Conditions) (values : Entries Value) : Nat :=
  conditions.names.countP values.has

theorem countP_lt {α : Type} {p q : α → Bool} {l : List α} {a : α}
    (within : ∀ x ∈ l, p x = true → q x = true) (member : a ∈ l) (lost : p a = false)
    (had : q a = true) : l.countP p < l.countP q := by
  induction l with
  | nil => cases member
  | cons x rest ih =>
      have tail := fun y inRest => within y (List.mem_cons_of_mem _ inRest)
      simp only [List.countP_cons]
      rcases List.mem_cons.mp member with same | inRest
      · subst same
        have fewer := List.countP_mono_left tail
        simp only [lost, had, if_true, Bool.false_eq_true, if_false]
        omega
      · have fewer := ih tail inRest
        have head := within x List.mem_cons_self
        by_cases now : p x = true
        · simp only [now, head now, if_true]
          omega
        · simp only [now, Bool.false_eq_true, if_false]
          omega

/-- A pass after which something is pending removed the value of a conditional field. -/
theorem held_pass_lt (distinct : conditions.names.Nodup) (fits : cycle.map.Fits conditions)
    (busy : (cycle.pass conditions).pending ≠ []) :
    held conditions (cycle.pass conditions).values < held conditions cycle.values := by
  have reads : ∀ name, (cycle.pass conditions).values.get? name =
      if name ∈ cycle.removed conditions then none else cycle.values.get? name :=
    Entries.get?_dropAll cycle.values (cycle.removed conditions)
  cases gone : cycle.removed conditions with
  | nil =>
      refine absurd ?_ busy
      show conditions.affectedBy (cycle.removed conditions) = []
      rw [gone, Conditions.affectedBy_nil]
  | cons name rest =>
      have member : name ∈ cycle.removed conditions := gone ▸ List.mem_cons_self
      refine countP_lt ?_ (removed_subset distinct fits member) ?_
        ((mem_removed distinct fits).mp member).2
      · intro other _ still
        rw [Entries.has, reads] at still
        split at still
        next => cases still
        next => exact still
      · rw [Entries.has, reads, if_pos member]
        rfl

theorem passes_done (distinct : conditions.names.Nodup) (limit : Nat)
    (fits : cycle.map.Fits conditions) (enough : held conditions cycle.values < limit) :
    (cycle.passes conditions limit).pending = [] := by
  induction limit generalizing cycle with
  | zero => omega
  | succ limit ih =>
      rw [passes]
      split
      next done => simpa using done
      next =>
        by_cases busy : (cycle.pass conditions).pending = []
        · cases limit <;> simp [passes, busy]
        · have fewer := held_pass_lt distinct fits busy
          exact ih (pass_fits distinct fits) (by omega)

theorem held_le (conditions : Conditions) (values : Entries Value) :
    held conditions values ≤ conditions.length := by
  have bound := List.countP_le_length (p := values.has) (l := conditions.names)
  simpa [held, Entries.names] using bound

/-! ## The end of a cycle -/

theorem settle_fits (distinct : conditions.names.Nodup) (fits : cycle.map.Fits conditions) :
    (cycle.settle conditions).map.Fits conditions :=
  passes_of_pass (p := fun later => later.map.Fits conditions)
    (fun _ fits _ => pass_fits distinct fits) _ fits

/-- A cycle never ends because its number of passes is used up. -/
theorem settle_done (distinct : conditions.names.Nodup) (fits : cycle.map.Fits conditions) :
    (cycle.settle conditions).pending = [] :=
  passes_done distinct (conditions.length + 1) fits
    (Nat.lt_succ_of_le (held_le conditions cycle.values))

theorem settle_absent (distinct : conditions.names.Nodup) (fits : cycle.map.Fits conditions)
    (busy : cycle.pending ≠ []) (name : String)
    (hidden : (cycle.settle conditions).map.get? name = some false) :
    (cycle.settle conditions).values.get? name = none := by
  have first : cycle.settle conditions =
      (cycle.pass conditions).passes conditions conditions.length := by
    rw [settle, passes, if_neg (by simpa using busy)]
  rw [first] at hidden ⊢
  exact passes_absent distinct (pass_fits distinct fits) (pass_absent distinct fits) _ name hidden

/-- In the end the map is right for every condition that reads no field that does not count. -/
theorem SoundBut.settle_right {stale : String → Prop} (distinct : conditions.names.Nodup)
    (sound : cycle.SoundBut stale conditions) {name : String} {c : Condition}
    (has : conditions.get? name = some c) (fresh : ∀ read ∈ c.references, ¬stale read) :
    (cycle.settle conditions).map.get? name = some (c.holds (cycle.settle conditions).values) := by
  have ended : (cycle.settle conditions).SoundBut stale conditions :=
    passes_of_pass (fun _ sound _ => sound.pass distinct) _ sound
  refine ended.right name c has fresh ?_
  rw [settle_done distinct sound.fits]
  exact List.not_mem_nil

theorem settle_settled (distinct : conditions.names.Nodup) (sound : cycle.Sound conditions)
    (start : cycle.pending = [] → conditions = []) :
    (cycle.settle conditions).Settled conditions := by
  have fits := settle_fits distinct sound.fits
  refine ⟨fits, settle_done distinct sound.fits, ?_, ?_⟩
  · intro name c has
    exact sound.but.settle_right distinct has fun _ _ => id
  · intro name hidden
    by_cases busy : cycle.pending = []
    · have conditional := fits.conditional hidden
      rw [start busy] at conditional
      cases conditional
    · exact settle_absent distinct sound.fits busy name hidden

theorem settle_values (distinct : conditions.names.Nodup) (fits : cycle.map.Fits conditions)
    (fresh : cycle.cleared = []) :
    (cycle.settle conditions).values =
        cycle.values.dropAll (cycle.settle conditions).cleared ∧
      (cycle.settle conditions).cleared ⊆ conditions.names := by
  unfold settle
  refine (passes_of_pass (p := fun later =>
    later.map.Fits conditions ∧ later.values = cycle.values.dropAll later.cleared ∧
      later.cleared ⊆ conditions.names) ?_ (conditions.length + 1) ⟨fits, ?_, ?_⟩).2
  · rintro later ⟨fits, values, within⟩ -
    refine ⟨pass_fits distinct fits, ?_, ?_⟩
    · show later.values.dropAll (later.removed conditions) =
        cycle.values.dropAll (later.cleared ++ later.removed conditions)
      rw [values, Entries.dropAll_dropAll]
    · show later.cleared ++ later.removed conditions ⊆ conditions.names
      exact List.append_subset.mpr ⟨within, removed_subset distinct fits⟩
  · rw [fresh, Entries.dropAll_nil]
  · rw [fresh]
    exact List.nil_subset _

theorem names_settle (fits : cycle.map.Fits conditions) (distinct : conditions.names.Nodup) :
    (cycle.settle conditions).map.names = cycle.map.names := by
  refine (passes_of_pass (p := fun later => later.map.Fits conditions ∧
    later.map.names = cycle.map.names) ?_ (conditions.length + 1) ⟨fits, rfl⟩).2
  rintro later ⟨fits, names⟩ -
  exact ⟨pass_fits distinct fits,
    (Conditions.names_reevaluate fits.known later.pending later.values).trans names⟩

theorem subset_names_settle (conditions : Conditions) (cycle : Cycle) :
    cycle.map.names ⊆ (cycle.settle conditions).map.names :=
  passes_of_pass (p := fun later => cycle.map.names ⊆ later.map.names)
    (fun later known _ => List.Subset.trans known
      (Conditions.subset_names_reevaluate conditions later.pending later.values later.map))
    _ (List.Subset.refl _)

theorem Settled.again (settled : cycle.Settled conditions) (distinct : conditions.names.Nodup)
    (later : Cycle) (map : later.map = cycle.map) (values : later.values = cycle.values)
    (fresh : later.cleared = []) :
    (later.settle conditions).map = cycle.map ∧ (later.settle conditions).values = cycle.values ∧
      (later.settle conditions).cleared = [] := by
  refine passes_of_pass (p := fun later => later.map = cycle.map ∧
    later.values = cycle.values ∧ later.cleared = []) ?_ _ ⟨map, values, fresh⟩
  rintro later ⟨map, values, fresh⟩ -
  have same : conditions.reevaluate later.pending later.values later.map = cycle.map := by
    rw [map, values]
    apply Conditions.reevaluate_of_right
    exact fun name c member => settled.right name c (Entries.get?_of_mem distinct member)
  have nothing : later.removed conditions = [] := by
    rw [removed, same, List.filter_eq_nil_iff]
    intro name hidden held
    rw [Visibility.mem_hidden settled.fits.distinct] at hidden
    rw [values, Entries.has, settled.absent name hidden] at held
    cases held
  refine ⟨same, ?_, ?_⟩
  · show later.values.dropAll (later.removed conditions) = cycle.values
    rw [nothing, Entries.dropAll_nil, values]
  · show later.cleared ++ later.removed conditions = []
    rw [nothing, fresh]
    rfl

end Formwork.Cycle
