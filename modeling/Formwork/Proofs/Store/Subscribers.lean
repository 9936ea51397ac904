import Formwork.Proofs.Store.Operations

/-! # What subscribers hear of an operation

Where one tracker listens to a store, a subscriber hears of an operation once, and once more
of what the tracker removed because of it. Who subscribed before the tracker hears of the
operation first, who subscribed after it last; either way the last word is about the values
that are left.
-/

namespace Formwork

theorem Entries.dropAll_distinct {α : Type} (entries : Entries α) (names : List String) :
    entries.dropAll (Names.distinct names) = entries.dropAll names := by
  refine List.filter_congr fun entry _ => ?_
  rw [Bool.eq_iff_iff]
  simp [Names.mem_distinct]

/-- The operation added, removed or changed the entry of a field. An entry that it did not touch
    is not changed, not even where the value is one that differs from itself. -/
def Changed (actions : List Action) (before after : Entries Value) (name : String) : Prop :=
  before.altered after name = true ∧
    (name ∈ actions.flatMap Action.touched ∨ after.get? name ≠ before.get? name)

/-- What a subscriber that listens a number of times hears of an operation: at most two words
    each time, which name all fields that changed, and the last of which is about the values
    that are left. -/
structure Informed (changed : String → Prop) (left : Entries Value) (times : Nat)
    (words : List (List String × Entries Value)) : Prop where
  few : words.length ≤ 2 * times
  complete : 0 < times → ∀ name, changed name → ∃ word ∈ words, name ∈ word.1
  current : ∀ last, words.getLast? = some last → last.2 = left

namespace Informed

variable {changed fewer : String → Prop} {left : Entries Value} {times : Nat}
  {words : List (List String × Entries Value)}

theorem mono (h : Informed changed left times words)
    (within : ∀ name, fewer name → changed name) : Informed fewer left times words where
  few := h.few
  complete := fun listens name change => h.complete listens name (within name change)
  current := h.current

/-- The words when some names are told of, first to those in front, and then some values are
    removed, which everyone is told of before those at the back are told of the names. -/
theorem of_words (names gone : List String) (values : Entries Value) (front back : Nat) :
    Informed (fun name => name ∈ names ∨ name ∈ gone) (values.dropAll gone) (front + back)
      (List.replicate front (names, values) ++
        ((if gone.isEmpty then [] else List.replicate (front + back) (gone, values.dropAll gone)) ++
          List.replicate back (names, values.dropAll gone))) := by
  cases gone with
  | nil =>
      rw [Entries.dropAll_nil, List.isEmpty_nil, if_pos rfl, List.nil_append,
        List.replicate_append_replicate]
      refine ⟨?_, fun listens name changed => ⟨(names, values), ?_, ?_⟩, fun last ended => ?_⟩
      · rw [List.length_replicate]
        omega
      · exact List.mem_replicate.mpr ⟨by omega, rfl⟩
      · exact changed.resolve_right List.not_mem_nil
      · exact congrArg Prod.snd (List.eq_of_mem_replicate (List.mem_of_getLast? ended))
  | cons first rest =>
      rw [List.isEmpty_cons, if_neg Bool.false_ne_true]
      refine ⟨?_, ?_, ?_⟩
      · simp only [List.length_append, List.length_replicate]
        omega
      · intro listens name changed
        rcases changed with named | removed
        · rcases Nat.eq_zero_or_pos front with nobody | early
          · refine ⟨(names, values.dropAll (first :: rest)), ?_, named⟩
            have late : back ≠ 0 := by omega
            exact List.mem_append_right _
              (List.mem_append_right _ (List.mem_replicate.mpr ⟨late, rfl⟩))
          · refine ⟨(names, values), ?_, named⟩
            exact List.mem_append_left _ (List.mem_replicate.mpr ⟨Nat.ne_of_gt early, rfl⟩)
        · refine ⟨(first :: rest, values.dropAll (first :: rest)), ?_, removed⟩
          exact List.mem_append_right _
            (List.mem_append_left _ (List.mem_replicate.mpr ⟨Nat.ne_of_gt listens, rfl⟩))
      · intro last ended
        rw [List.getLast?_append, Option.or_eq_some_iff] at ended
        rcases ended with later | ⟨nothing, early⟩
        · rcases List.mem_append.mp (List.mem_of_getLast? later) with member | member <;>
            exact congrArg Prod.snd (List.eq_of_mem_replicate member)
        · -- nobody was told of the removed values, so nobody listens
          have nobody : front = 0 := by
            simp only [List.getLast?_eq_none_iff, List.append_eq_nil_iff,
              List.replicate_eq_nil_iff] at nothing
            omega
          rw [nobody] at early
          cases early

end Informed

namespace Workspace

/-- What a function of the host was told of changes: which fields, and the values then. -/
def heard (w : Workspace) (listener : String) : List (List String × Entries Value) :=
  w.events.filterMap fun event => match event with
    | .changed name names values => if name = listener then some (names, values) else none
    | _ => none

theorem heard_append (events more : List Event) (listener : String) :
    heard { events := events ++ more } listener =
      heard { events } listener ++ heard { events := more } listener :=
  List.filterMap_append

theorem heard_shown (maps : List (String × Visibility)) (listener : String) :
    heard { events := maps.map fun (name, map) => .shown name map } listener = [] := by
  rw [heard, List.filterMap_map]
  exact List.filterMap_eq_nil_iff.mpr fun _ _ => rfl

theorem heard_wordOf (names : List String) (values : Entries Value) (listeners : List Listener)
    (listener : String) : heard { events := wordOf names values listeners } listener =
      List.replicate (listeners.count (.host listener)) (names, values) := by
  induction listeners with
  | nil => rfl
  | cons first rest ih =>
      cases first with
      | tracker id =>
          have other : Listener.tracker id ≠ .host listener := nofun
          rw [List.count_cons_of_ne other]
          exact ih
      | host name =>
          have first : heard { events := wordOf names values (.host name :: rest) } listener =
              (if name = listener then [(names, values)] else []) ++
                heard { events := wordOf names values rest } listener := by
            unfold heard wordOf
            split <;> simp [*]
          rw [first, ih]
          by_cases same : name = listener
          · rw [same, if_pos rfl, List.count_cons_self]
            rfl
          · have other : Listener.host name ≠ .host listener := fun alike =>
              same (Listener.host.inj alike)
            rw [if_neg same, List.count_cons_of_ne other, List.nil_append]

end Workspace

namespace Form

variable {form : Form}

theorem cycle_outside (outside : form.store.batchDepth = 0) (affected : List String) :
    (form.cycle affected).store =
      form.store.remove (form.tracker.cycle affected form.store.values).cleared := by
  simp only [cycle]
  split
  · rfl
  · rw [Store.record_outside (by exact outside)]

/-- When the tracker hears of a change outside of batches, it removes the values of some fields,
    and whoever listens hears of these, if there are any. -/
theorem heard_saidOfHear (outside : form.store.batchDepth = 0) (names : List String) :
    ∃ gone, (form.hear names).store.values = form.store.values.dropAll gone ∧
      ∀ listener, Workspace.heard { events := form.saidOfHear names } listener =
        if gone.isEmpty then []
        else List.replicate (form.store.listeners.count (.host listener))
          (gone, (form.hear names).store.values) := by
  unfold saidOfHear hear
  split
  · exact ⟨[], (Entries.dropAll_nil _).symm, fun _ => rfl⟩
  · rw [saidOfCycle, cycle_outside outside, Store.record_outside (by exact outside)]
    refine ⟨_, (Entries.dropAll_distinct _ _).symm, fun listener => ?_⟩
    rw [Workspace.heard_append, Workspace.heard_shown, List.append_nil, Workspace.wordAt]
    split
    · rfl
    · exact Workspace.heard_wordOf _ _ _ _

/-- Who listens before the tracker hears of a change first, who listens after it last. -/
theorem heard_saidTo (names : List String) (front back : List Listener)
    (before : ∀ first ∈ front, first.tracker? = none) (t : Nat) (listener : String) :
    Workspace.heard { events := form.saidTo names (front ++ .tracker t :: back) } listener =
      List.replicate (front.count (.host listener)) (names, form.store.values) ++
        (Workspace.heard { events := form.saidOfHear names } listener ++
          List.replicate (back.count (.host listener))
            (names, (form.hear names).store.values)) := by
  have parts : form.saidTo names (front ++ .tracker t :: back) =
      Workspace.wordOf names form.store.values front ++ (form.saidOfHear names ++
        Workspace.wordOf names (form.hear names).store.values back) := by
    induction front with
    | nil => rfl
    | cons first rest ih =>
        cases first with
        | tracker id => cases before _ List.mem_cons_self
        | host name =>
            exact congrArg (.changed name names form.store.values :: ·)
              (ih fun other member => before other (List.mem_cons_of_mem _ member))
  rw [parts, Workspace.heard_append, Workspace.heard_append, Workspace.heard_wordOf,
    Workspace.heard_wordOf]

/-- What listeners hear of a change covers what the tracker did because of it. -/
theorem heard_said (form : Form) {t : Nat} (listening : form.store.trackers = [t])
    (outside : form.store.batchDepth = 0) (names : List String) (listener : String) :
    Informed (fun name => name ∈ names ∨
        (form.hear names).store.values.get? name ≠ form.store.values.get? name)
      (form.hear names).store.values (form.store.listeners.count (.host listener))
      (Workspace.heard { events := form.said names } listener) := by
  obtain ⟨front, found, back, around, before, isTracker, -⟩ :=
    List.filterMap_eq_cons_iff.mp listening
  obtain ⟨gone, left, nested⟩ := heard_saidOfHear outside names
  cases found with
  | host name => cases isTracker
  | tracker id =>
  have times : form.store.listeners.count (.host listener) =
      front.count (.host listener) + back.count (.host listener) := by
    have other : Listener.tracker id ≠ .host listener := nofun
    rw [around, List.count_append, List.count_cons_of_ne other]
  unfold said
  by_cases none : names = []
  · subst none
    rw [hear_nil]
    refine ⟨Nat.zero_le _, fun _ name changed => ?_, fun last ended => by cases ended⟩
    simp at changed
  · rw [if_neg (by simpa using none)]
    conv in form.saidTo names _ => rw [around]
    rw [heard_saidTo names front back before, nested, times]
    rw [left]
    refine (Informed.of_words names gone form.store.values _ _).mono fun name changed => ?_
    refine changed.imp_right fun otherwise => ?_
    by_contra kept
    exact otherwise (by rw [Entries.get?_dropAll, if_neg kept])

end Form

namespace Workspace

variable {w : Workspace} {t : Nat} {actions : List Action}

/-- One tracker listens to the store in use, outside of batches. -/
structure Tracked (w : Workspace) (t : Nat) : Prop extends w.Listens w.store t where
  outside : (w.storeAt w.store).batchDepth = 0
  idle : (w.storeAt w.store).pending = []

theorem holding_becomes (records : w.Records) (store : Store) (notices : List Notice) :
    w.FormBecomes w.store t { tracker := w.trackerAt t, store }
      (w.holding store w.batches notices) := by
  refine ⟨⟨⟨rfl, .refl w, records.scripts, records.watchScripts⟩, fun id other => ?_,
    fun _ _ => rfl⟩, ?_⟩
  · simp [holding, storeAt, Table.read_write, other.symm]
  · exact congrArg (Form.mk (w.trackerAt t)) storeAt_holding

/-- What an operation does where one tracker listens: values change, and then the tracker and
    the functions of the host hear of it once. -/
theorem Tracked.speaks (tracked : w.Tracked t) (operation : Operation actions) :
    ∃ values names, Edit actions names (w.storeAt w.store).values values ∧
      Effect.Yields (actEach actions w) fun _ after =>
        w.Speaks w.store t
          (Form.hear { w.formAt w.store t with store.values := values } names)
          (Form.said { w.formAt w.store t with store.values := values } names) after := by
  obtain ⟨values, names, notices, edit, ran⟩ :=
    operation.applies tracked.outside tracked.idle
  have held := holding_becomes (t := t) tracked.records { w.storeAt w.store with values } notices
  have still := tracked.toListens.becomes held (.store _ _ rfl rfl)
  refine ⟨values, names, edit, ?_⟩
  rw [← actEachWith_callbacks, ran]
  refine (notify_speaks (w.trackers.length + 998) still names).mono fun _ after heard => ?_
  rw [held.form] at heard
  exact (held.silently rfl).trans heard

/-- Each subscriber hears of an operation at most twice each time it listens; it hears of all
    entries that were added, removed or changed, those that the tracker removed included, and its
    last word is about the values that are left. -/
theorem Tracked.subscribers_informed (tracked : w.Tracked t) (operation : Operation actions) :
    Effect.Yields (actEach actions w) fun _ after => ∀ listener, ∃ words,
      after.heard listener = w.heard listener ++ words ∧
        Informed (Changed actions (w.storeAt w.store).values (after.storeAt w.store).values)
          (after.storeAt w.store).values ((w.storeAt w.store).listeners.count (.host listener))
          words := by
  obtain ⟨values, names, edit, ran⟩ := tracked.speaks operation
  refine ran.mono fun _ after spoke listener => ?_
  have words := Form.heard_said { w.formAt w.store t with store.values := values }
    tracked.listening tracked.outside names listener
  rw [← spoke.storeAt] at words
  refine ⟨_, ?_, words.mono ?_⟩
  · rw [heard, spoke.said, List.filterMap_append]
    rfl
  · rintro name ⟨altered, touched⟩
    -- a field that nobody was told of reads as before, so it cannot have changed
    by_contra unheard
    obtain ⟨untold, kept⟩ := not_or.mp unheard
    have reads : (after.storeAt w.store).values.get? name = values.get? name := not_not.mp kept
    rcases edit.same name untold with ⟨spared, same⟩ | same
    · exact touched.elim spared fun differs => differs (reads.trans same)
    · rw [Entries.altered, reads, ← Entries.altered, same] at altered
      cases altered

/-! ## A pet that is gone, for instance -/

/-- A host that listens before and after the tracker of the form about a pet. -/
def petHeard : Workspace :=
  (actEach [.subscribe "a" "early" [] 0, .track "pet", .start, .subscribe "b" "late" [] 0,
    .setMany [("pet", .str "yes"), ("petName", .str "Rex")]]
    { schemas := [("pet", petForm)], stores := [(0, { values := [("mood", .float .nan)] })] }).2

theorem petHeard_tracked : petHeard.Tracked 0 := by
  have records : petHeard.Records := .of_calls (by decide +kernel) (by decide +kernel)
  have alone : petHeard.Alone petHeard.store 0 :=
    ⟨records, by decide +kernel, by decide +kernel, by decide +kernel⟩
  exact ⟨⟨alone, by decide +kernel⟩, by decide +kernel, by decide +kernel⟩

/-- In a batch the pet goes, and its name for good only then: who subscribed first hears of both
    and again of the name, and who subscribed last hears of the name first. -/
theorem petHeard_subscribers_informed :
    petHeard.Tracked 0 ∧ Operation [.openBatch, .set "pet" (.str "no"), .openBatch,
        .set "petName" (.str "Max"), .closeBatch true, .closeBatch false] ∧
      Effect.Yields (actEach [.openBatch, .set "pet" (.str "no"), .openBatch,
          .set "petName" (.str "Max"), .closeBatch true, .closeBatch false] petHeard)
        fun _ after => ∀ listener, ∃ words,
          after.heard listener = petHeard.heard listener ++ words ∧
            Informed (Changed [.openBatch, .set "pet" (.str "no"), .openBatch,
                .set "petName" (.str "Max"), .closeBatch true, .closeBatch false]
                (petHeard.storeAt petHeard.store).values (after.storeAt petHeard.store).values)
              (after.storeAt petHeard.store).values
              ((petHeard.storeAt petHeard.store).listeners.count (.host listener)) words := by
  have operation : Operation [.openBatch, .set "pet" (.str "no"), .openBatch,
      .set "petName" (.str "Max"), .closeBatch true, .closeBatch false] :=
    .batch (.change (.set _ _) (.nested (.change (.set _ _) .done) true .done)) false
  exact ⟨petHeard_tracked, operation, petHeard_tracked.subscribers_informed operation⟩

/-- Nobody hears of a mood that is not touched, although its value differs from itself. -/
theorem petHeard_mood_unheard :
    petHeard.Tracked 0 ∧ Operation [.set "petName" (.str "Max")] ∧
      ¬Effect.Yields (actEach [.set "petName" (.str "Max")] petHeard) fun _ after =>
        ∀ listener, ∃ words, after.heard listener = petHeard.heard listener ++ words ∧
          Informed (fun name => (petHeard.storeAt petHeard.store).values.altered
              (after.storeAt petHeard.store).values name = true)
            (after.storeAt petHeard.store).values
            ((petHeard.storeAt petHeard.store).listeners.count (.host listener)) words := by
  refine ⟨petHeard_tracked, .change (.set _ _), fun yields => ?_⟩
  obtain ⟨words, hears, informed⟩ := yields.snd "late"
  obtain ⟨word, member, named⟩ :=
    informed.complete (by decide +kernel) "mood" (by decide +kernel)
  have unheard : ∀ word ∈ heard (actEach [.set "petName" (.str "Max")] petHeard).2 "late",
      "mood" ∉ word.1 := by decide +kernel
  rw [hears] at unheard
  exact unheard word (List.mem_append_right _ member) named

end Workspace

end Formwork
