import Formwork.Proofs.Visibility.Cycle

/-! # Cycles that come to the same

Two cycles over the same values, whose maps are right for all that they do not evaluate, have
the same map after one pass, and agree from then on. So they end with the same map and with
the same values of shown fields, unless one has nothing to do while a pass would leave it
something.
-/

namespace Formwork.Cycle

variable {conditions : Conditions} {cycle other : Cycle}

def shown (cycle : Cycle) : Entries Value :=
  cycle.values.filter fun entry => isShown (some cycle.map) entry.1

/-- Two cycles that go on alike. -/
structure Agrees (cycle other : Cycle) : Prop where
  map : other.map = cycle.map
  values : other.values = cycle.values
  pending : other.pending = cycle.pending

theorem pass_agrees (map : (other.pass conditions).map = (cycle.pass conditions).map)
    (values : other.values = cycle.values) :
    (cycle.pass conditions).Agrees (other.pass conditions) := by
  have removed : other.removed conditions = cycle.removed conditions := by
    show (Visibility.hidden (other.pass conditions).map).filter other.values.has = _
    rw [map, values]
    rfl
  refine ⟨map, ?_, ?_⟩
  · show other.values.dropAll (other.removed conditions) = _
    rw [removed, values]
    rfl
  · show conditions.affectedBy (other.removed conditions) = _
    rw [removed]
    rfl

theorem Agrees.passes (agrees : cycle.Agrees other) (limit : Nat) :
    (cycle.passes conditions limit).Agrees (other.passes conditions limit) := by
  induction limit generalizing cycle other with
  | zero => exact agrees
  | succ limit ih =>
      rw [Cycle.passes, Cycle.passes, agrees.pending]
      split
      next => exact agrees
      next =>
        have evaluated : (other.pass conditions).map = (cycle.pass conditions).map := by
          show conditions.reevaluate other.pending other.values other.map = _
          rw [agrees.map, agrees.values, agrees.pending]
          rfl
        exact ih (pass_agrees evaluated agrees.values)

/-! ## The first pass -/

theorem pass_map_eq (distinct : conditions.names.Nodup) (sound : cycle.Sound conditions)
    (sound' : other.Sound conditions) (names : other.map.names = cycle.map.names)
    (values : other.values = cycle.values) :
    (other.pass conditions).map = (cycle.pass conditions).map := by
  have fits := sound.fits.reevaluate distinct cycle.pending cycle.values
  have fits' := sound'.fits.reevaluate distinct other.pending other.values
  have same : (other.pass conditions).map.names = (cycle.pass conditions).map.names := by
    refine (Conditions.names_reevaluate sound'.fits.known _ _).trans (names.trans ?_)
    exact (Conditions.names_reevaluate sound.fits.known _ _).symm
  apply Entries.ext_get? same fits.distinct
  intro name
  -- a pass makes conditional fields right, and all others are shown at any time
  cases has : conditions.get? name with
  | some c => rw [pass_right distinct sound has, pass_right distinct sound' has, values]
  | none =>
      have free : name ∉ conditions.names := Entries.get?_eq_none_iff.mp has
      by_cases known : name ∈ (cycle.pass conditions).map.names
      · exact (fits'.shown name (same ▸ known) free).trans (fits.shown name known free).symm
      · rw [Entries.get?_eq_none_iff.mpr known, Entries.get?_eq_none_iff.mpr (same ▸ known)]

theorem shown_pass (distinct : conditions.names.Nodup) (fits : cycle.map.Fits conditions) :
    (cycle.pass conditions).shown =
      cycle.values.filter fun entry => isShown (some (cycle.pass conditions).map) entry.1 := by
  show (cycle.values.dropAll (cycle.removed conditions)).filter _ = _
  rw [Entries.dropAll, List.filter_filter]
  apply List.filter_congr
  intro entry _
  by_cases gone : entry.1 ∈ cycle.removed conditions
  · have hidden := ((mem_removed distinct fits).mp gone).1
    simp [isShown, hidden]
  · simp [gone]

theorem pass_map_of_idle (distinct : conditions.names.Nodup) (sound : cycle.Sound conditions)
    (idle : cycle.pending = []) : (cycle.pass conditions).map = cycle.map := by
  apply Conditions.reevaluate_of_right
  intro name c member
  exact sound.right name c (Entries.get?_of_mem distinct member) (idle ▸ List.not_mem_nil)

theorem settle_of_pass (distinct : conditions.names.Nodup) (sound : cycle.Sound conditions)
    (done : (cycle.pass conditions).pending = []) :
    (cycle.settle conditions).map = (cycle.pass conditions).map ∧
      (cycle.settle conditions).shown = (cycle.pass conditions).shown := by
  rw [settle, passes]
  split
  next idle =>
    have map := pass_map_of_idle distinct sound (List.isEmpty_iff.mp idle)
    rw [shown_pass distinct sound.fits, map]
    exact ⟨rfl, rfl⟩
  next =>
    have ended : (cycle.pass conditions).passes conditions conditions.length =
        cycle.pass conditions := by
      cases conditions.length <;> simp [passes, done]
    rw [ended]
    exact ⟨rfl, rfl⟩

/-! ## The end -/

theorem settle_alike (distinct : conditions.names.Nodup) (sound : cycle.Sound conditions)
    (sound' : other.Sound conditions) (names : other.map.names = cycle.map.names)
    (values : other.values = cycle.values)
    (calm : cycle.pending = [] → (cycle.pass conditions).pending = [])
    (calm' : other.pending = [] → (other.pass conditions).pending = []) :
    (other.settle conditions).map = (cycle.settle conditions).map ∧
      (other.settle conditions).shown = (cycle.settle conditions).shown := by
  have agrees := pass_agrees (pass_map_eq distinct sound sound' names values) values
  have pending := agrees.pending
  -- if the first pass leaves nothing to do both are at the end, one that did not start included;
  -- else both have started, and go on alike
  by_cases done : (cycle.pass conditions).pending = []
  · obtain ⟨map, shows⟩ := settle_of_pass distinct sound done
    obtain ⟨map', shows'⟩ := settle_of_pass distinct sound' (pending.trans done)
    have alike : (other.pass conditions).shown = (cycle.pass conditions).shown := by
      rw [shown, shown, agrees.map, agrees.values]
    rw [map, map', shows, shows']
    exact ⟨agrees.map, alike⟩
  · have busy : ¬cycle.pending.isEmpty = true := fun idle =>
      done (calm (List.isEmpty_iff.mp idle))
    have busy' : ¬other.pending.isEmpty = true := fun idle =>
      done (pending ▸ calm' (List.isEmpty_iff.mp idle))
    rw [settle, settle, passes, passes, if_neg busy, if_neg busy']
    have later : ((cycle.pass conditions).passes conditions conditions.length).Agrees
        ((other.pass conditions).passes conditions conditions.length) := agrees.passes _
    rw [shown, shown, later.map, later.values]
    exact ⟨rfl, rfl⟩

end Formwork.Cycle
