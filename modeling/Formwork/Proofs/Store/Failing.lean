import Formwork.Proofs.Store.Sharing
import Formwork.Proofs.Workspace.Bystanders

/-! # Subscribers that fail

Values are kept before anyone is told of them, and the first function of the host that fails ends
the telling. If it listens after the tracker, or fails when it is told of removed values or of a new
map, the map is right all the same. If it listens before the tracker, the tracker never hears of the
change, and its map stays what it was.
-/

namespace Formwork

namespace Entries

/-- A field that is not to be told of, although a condition may tell its values apart. -/
def Overlooked (names : List String) (before after : Entries Value) (name : String) : Prop :=
  name ∉ names ∧ ¬(before.value name).Alike (after.value name)

end Entries

theorem Edit.not_overlooked {actions : List Action} {names : List String}
    {before after : Entries Value} (edit : Edit actions names before after)
    (plain : ∀ name value, before.get? name = some value → value.Plain)
    (written : ∀ entry ∈ actions.flatMap Action.written, entry.2.Plain) (name : String) :
    ¬Entries.Overlooked names before after name :=
  fun overlooked => overlooked.2 (edit.alike plain written overlooked.1)

namespace Workspace

variable {w w' : Workspace} {s t : Nat} {names : List String} {stale : String → Prop}
  {hooks : Nat → Hooks} {keeps : Workspace → Prop} {actions : List Action}

/-! ## The map after the tracker has heard -/

theorem RightBut.hear (right : w.RightBut s t fun name => stale name ∨ name ∈ names)
    (formed : (w.trackerAt t).Formed) (quiet : (w.trackerAt t).isAnnouncing = false)
    (heard : w'.formAt s t = (w.formAt s t).hear names) : w'.RightBut s t stale := by
  have reacts : (w.formAt s t).tracker.reactsTo names =
      (w.trackerAt t).conditions.affectedBy names := Tracker.reactsTo_quiet quiet names
  by_cases nothing : (w.trackerAt t).conditions.affectedBy names = []
  · have same : w'.formAt s t = w.formAt s t := by
      rw [heard, Form.hear, reacts, nothing]
      rfl
    have tracker : w'.trackerAt t = w.trackerAt t := congrArg Form.tracker same
    have store : w'.storeAt s = w.storeAt s := congrArg Form.store same
    exact (right.unaffected nothing).same (by rw [tracker]) (by rw [tracker])
      fun _ _ => by rw [store]
  · rw [Form.hear_busy (reacts ▸ nothing), reacts] at heard
    have map : (w'.trackerAt t).map =
        (w.cycleAt s t ((w.trackerAt t).conditions.affectedBy names)).map :=
      congrArg (fun form => form.tracker.map) heard
    have conditions : (w'.trackerAt t).conditions = (w.trackerAt t).conditions :=
      congrArg (fun form => form.tracker.conditions) heard
    have values : (w'.storeAt s).values =
        (w.cycleAt s t ((w.trackerAt t).conditions.affectedBy names)).values :=
      (congrArg (fun form => form.store.values) heard).trans
        ((Form.cycle_values _ _).trans
          (Cycle.settle_values formed.distinct formed.fits rfl).1.symm)
    intro name c has fresh
    rw [conditions] at has
    rw [map, values]
    exact (right.soundBut formed).settle_right formed.distinct has fresh

/-! ## What is written -/

/-- Listeners that do nothing. -/
def idle : Hooks := { changed := fun _ _ _ => pure (), shown := fun _ _ => pure () }

/-- The values after an operation of which no listener takes notice. -/
def writtenBy (w : Workspace) (actions : List Action) : Entries Value :=
  ((actEachWith (fun _ => idle) actions w).2.storeAt w.store).values

theorem notify_idle (names : List String) : notify idle s names w = (.ok (), w) := by
  have told : ∀ listeners, callListeners idle s names listeners w = (.ok (), w) := by
    intro listeners
    induction listeners with
    | nil => rfl
    | cons listener rest ih =>
        rw [callListeners_cons]
        exact (Effect.bind_of_ok rfl _).trans ih
  rw [notify_apply]
  split
  · rfl
  · exact told _

/-- Before anyone is told of written values, the map is right for the conditions that read neither
    a changed field nor an overlooked one. -/
theorem RightBut.holding (right : w.RightBut w.store t fun _ => False) {values : Entries Value}
    {notices : List Notice} :
    (w.holding { w.storeAt w.store with values } w.batches notices).RightBut w.store t
      fun name => Entries.Overlooked names (w.storeAt w.store).values values name ∨
        name ∈ names := by
  intro name c has fresh
  rw [storeAt_holding]
  refine (right name c has fun _ _ => id).trans (congrArg some (Condition.holds_congr c ?_))
  intro read reads
  by_contra apart
  obtain ⟨seen, untold⟩ := not_or.mp (fresh read reads)
  exact seen ⟨untold, apart⟩

/-- One tracker listens to the store in use, outside of batches. -/
structure Heeded (w : Workspace) (t : Nat) : Prop where
  follows : (w.trackerAt t).store = w.store
  quiet : (w.trackerAt t).isAnnouncing = false
  listening : (w.storeAt w.store).trackers = [t]
  formed : (w.trackerAt t).Formed
  outside : (w.storeAt w.store).batchDepth = 0
  idle : (w.storeAt w.store).pending = []

/-- The tracker has heard of an operation: its map is right for all conditions that read none of
    some fields, and the written values are there, but for those that were removed. -/
structure Heard (w : Workspace) (t : Nat) (stale : String → Prop) (values : Entries Value)
    (after : Workspace) : Prop where
  right : after.RightBut w.store t stale
  kept : ∃ gone ⊆ (w.trackerAt t).conditions.names,
    (after.storeAt w.store).values = values.dropAll gone

/-- A function of the host in front of the tracker failed when it was told of an operation. The
    written values are there, but the tracker is what it was. -/
structure PassedOver (w : Workspace) (t : Nat) (hooks : Hooks) (keeps : Workspace → Prop)
    (stale : String → Prop) (names : List String) (values : Entries Value)
    (run : Except Fault Unit × Workspace) : Prop where
  right : run.2.RightBut w.store t fun name => stale name ∨ name ∈ names
  tracker : run.2.trackerAt t = w.trackerAt t
  kept : (run.2.storeAt w.store).values = values
  failed : ∃ front back, (w.storeAt w.store).listeners = front ++ .tracker t :: back ∧
    FailsAmong hooks keeps w.store t { w.formAt w.store t with store.values := values } names
      front run

/-- Whoever fails, and when: after an operation the map is right for all conditions that read none
    of the overlooked fields, as before, unless a function of the host in front of the tracker
    failed. No field is overlooked where the values are plain. -/
theorem Heeded.heard_or_passed_over (heeded : w.Heeded t)
    (bystanders : Bystanders hooks w.store t keeps) (kept : keeps w) (operation : Operation actions)
    (right : w.RightBut w.store t fun _ => False) :
    ∃ names, Edit actions names (w.storeAt w.store).values (w.writtenBy actions) ∧
      let overlooked := Entries.Overlooked names (w.storeAt w.store).values (w.writtenBy actions)
      (w.Heard t overlooked (w.writtenBy actions) (actEachWith hooks actions w).2 ∨
        w.PassedOver t (hooks w.depthLimit) keeps overlooked names (w.writtenBy actions)
          (actEachWith hooks actions w)) ∧
      ((∀ name value, (w.storeAt w.store).values.get? name = some value → value.Plain) →
        (∀ entry ∈ actions.flatMap Action.written, entry.2.Plain) → ∀ name, ¬overlooked name) := by
  obtain ⟨values, names, notices, edit, ran⟩ := operation.applies heeded.outside heeded.idle
  have written : w.writtenBy actions = values := by
    rw [writtenBy, ran, notify_idle, storeAt_holding]
  rw [written]
  refine ⟨names, edit, ?_, edit.not_overlooked⟩
  have holds : HasForm keeps w.store t { w.formAt w.store t with store.values := values }
      (w.holding { w.storeAt w.store with values } w.batches notices) :=
    ⟨congrArg (Form.mk (w.trackerAt t)) storeAt_holding, bystanders.untouched w _ rfl rfl kept⟩
  rw [ran]
  have deep : w.depthLimit = w.trackers.length + 998 + 2 := rfl
  rw [deep]
  rcases notify_hasForm bystanders (w.trackers.length + 998) holds heeded.follows heeded.quiet
    heeded.listening names with heard | ⟨still, front, back, around, fails⟩
  · refine .inl ⟨?_, ?_⟩
    · exact right.holding.hear heeded.formed heeded.quiet (heard.form.trans (by rw [holds.form]))
    · obtain ⟨gone, within, left⟩ := Form.hear_loses
        { w.formAt w.store t with store.values := values } heeded.formed.distinct
        heeded.formed.fits names
      exact ⟨gone, within, (congrArg (fun form => form.store.values) heard.form).trans left⟩
  · have form := still.form.trans holds.form.symm
    have tracker := congrArg Form.tracker form
    have store := congrArg Form.store form
    refine .inr ⟨?_, tracker, congrArg (fun form => form.store.values) still.form, front, back,
      around, fails⟩
    exact right.holding.same (congrArg Tracker.conditions tracker) (congrArg Tracker.map tracker)
      fun name _ => congrArg (fun store : Store => store.values.get? name) store

end Workspace

/-! ## Scripts that fail -/

def Action.isFailure : Action → Bool
  | .fail _ => true
  | _ => false

/-- A script that does nothing when it is called, or fails. -/
def Script.MerelyFails (script : Script) : Prop :=
  ∀ action ∈ script.actions, action.isFailure = true

namespace Workspace

/-- All functions of the host record what they are told, and some of them fail then. -/
structure MerelyFails (w : Workspace) : Prop where
  scripts : ∀ name script, w.scripts.get? name = some script → script.MerelyFails
  watchScripts : ∀ name script, w.watchScripts.get? name = some script → script.MerelyFails

theorem performAll_fails (hooks : Hooks) {actions : List Action}
    (fails : ∀ action ∈ actions, action.isFailure = true) (w : Workspace) :
    (performAll hooks actions w).2 = w := by
  cases actions with
  | nil => rfl
  | cons action rest =>
      have first := fails action List.mem_cons_self
      cases action with
      | fail fault => rfl
      | _ => cases first

theorem nextCall_fails {scripts : Entries Script}
    (fails : ∀ name script, scripts.get? name = some script → script.MerelyFails)
    (listener : String) :
    (∀ action ∈ (nextCall ((scripts.get? listener).getD {})).1, action.isFailure = true) ∧
      (nextCall ((scripts.get? listener).getD {})).2.MerelyFails := by
  have next : ((scripts.get? listener).getD {}).MerelyFails := by
    cases found : scripts.get? listener with
    | none => exact fun _ none => nomatch none
    | some script => exact fails listener script found
  unfold nextCall
  split
  · exact ⟨(fun _ none => nomatch none), next⟩
  · exact ⟨next, next⟩

theorem MerelyFails.takeActions (fails : w.MerelyFails) (s t : Nat) (listener : String) :
    Effect.Yields (takeActions listener w) fun actions after =>
      (∀ action ∈ actions, action.isFailure = true) ∧
        HasForm MerelyFails s t (w.formAt s t) after := by
  have call := nextCall_fails fails.scripts listener
  refine ⟨_, _, rfl, call.1, rfl, ?_, fails.watchScripts⟩
  exact Entries.forall_get?_put fails.scripts call.2

theorem MerelyFails.takeWatchActions (fails : w.MerelyFails) (s t : Nat) (listener : String) :
    Effect.Yields (takeWatchActions listener w) fun actions after =>
      (∀ action ∈ actions, action.isFailure = true) ∧
        HasForm MerelyFails s t (w.formAt s t) after := by
  have call := nextCall_fails fails.watchScripts listener
  refine ⟨_, _, rfl, call.1, rfl, fails.scripts, ?_⟩
  exact Entries.forall_get?_put fails.watchScripts call.2

theorem bystanders_callbacks (s t : Nat) : Bystanders callbacks s t MerelyFails where
  reacts depth names values := by rw [callbacks]
  changed depth name names values w fails := by
    cases depth with
    | zero => exact ⟨rfl, fails⟩
    | succ depth =>
        have noted : (w.addEvent (.changed name names values)).MerelyFails :=
          ⟨fails.scripts, fails.watchScripts⟩
        obtain ⟨actions, after, run, all, holds⟩ := noted.takeActions s t name
        have ran : (callbacks (depth + 1)).changed (.host name) names values w =
            performAll (callbacks depth) actions after := Effect.bind_of_ok run _
        rw [ran, performAll_fails _ all]
        exact holds
  shown depth name map w fails := by
    cases depth with
    | zero => exact ⟨rfl, fails⟩
    | succ depth =>
        have noted : (w.addEvent (.shown name map)).MerelyFails :=
          ⟨fails.scripts, fails.watchScripts⟩
        obtain ⟨actions, after, run, all, holds⟩ := noted.takeWatchActions s t name
        have ran : (callbacks (depth + 1)).shown name map w =
            performAll (callbacks depth) actions after := Effect.bind_of_ok run _
        rw [ran, performAll_fails _ all]
        exact holds
  untouched w w' scripts watchScripts fails := by
    refine ⟨?_, ?_⟩
    · rw [scripts]
      exact fails.scripts
    · rw [watchScripts]
      exact fails.watchScripts

/-! ## A pet that sets off an alarm, for instance -/

/-- A function of the host that fails when it is first called. -/
def alarm : Action := .subscribe "a" "alarm" [.fail { kind := "RuntimeError", message := "" }] 1

/-- A form about a pet that is there. The alarm listens after the tracker. -/
def petAlarmedLate : Workspace :=
  (actEach [.track "pet", .start, alarm]
    { schemas := [("pet", petForm)]
      stores := [(0, { values := [("pet", .str "yes"), ("petName", .str "Rex")] })] }).2

/-- The form without a pet. The alarm listens before the tracker. -/
def petAlarmedEarly : Workspace :=
  (actEach [alarm, .track "pet", .start] { schemas := [("pet", petForm)] }).2

theorem petAlarmedLate_heeded : petAlarmedLate.Heeded 0 := by
  constructor <;> decide +kernel

theorem petAlarmedEarly_heeded : petAlarmedEarly.Heeded 0 := by
  constructor <;> decide +kernel

theorem petAlarmedLate_right : petAlarmedLate.RightBut petAlarmedLate.store 0 fun _ => False := by
  apply RightBut.of_entries
  decide +kernel

theorem petAlarmedEarly_right :
    petAlarmedEarly.RightBut petAlarmedEarly.store 0 fun _ => False := by
  apply RightBut.of_entries
  decide +kernel

theorem petAlarmedLate_fails : petAlarmedLate.MerelyFails := by
  have scripts : ∀ entry ∈ petAlarmedLate.scripts,
      ∀ action ∈ entry.2.actions, action.isFailure = true := by decide +kernel
  have watchScripts : ∀ entry ∈ petAlarmedLate.watchScripts,
      ∀ action ∈ entry.2.actions, action.isFailure = true := by decide +kernel
  exact ⟨fun _ _ found => scripts _ (Entries.mem_of_get? found),
    fun _ _ found => watchScripts _ (Entries.mem_of_get? found)⟩

/-- The pet goes and takes its name along, which sets off the alarm, but after the map. -/
theorem petAlarmedLate_heard :
    petAlarmedLate.Heeded 0 ∧ petAlarmedLate.MerelyFails ∧ Operation [.set "pet" (.str "no")] ∧
      petAlarmedLate.RightBut petAlarmedLate.store 0 (fun _ => False) ∧
      ∃ names, Edit [.set "pet" (.str "no")] names
          (petAlarmedLate.storeAt petAlarmedLate.store).values
          (petAlarmedLate.writtenBy [.set "pet" (.str "no")]) ∧
        petAlarmedLate.Heard 0
          (Entries.Overlooked names (petAlarmedLate.storeAt petAlarmedLate.store).values
            (petAlarmedLate.writtenBy [.set "pet" (.str "no")]))
          (petAlarmedLate.writtenBy [.set "pet" (.str "no")])
          (actEachWith callbacks [.set "pet" (.str "no")] petAlarmedLate).2 := by
  have operation : Operation [.set "pet" (.str "no")] := .change (.set _ _)
  obtain ⟨names, edit, heard | passed, -⟩ := petAlarmedLate_heeded.heard_or_passed_over
    (bystanders_callbacks _ 0) petAlarmedLate_fails operation petAlarmedLate_right
  · exact ⟨petAlarmedLate_heeded, petAlarmedLate_fails, operation, petAlarmedLate_right, names,
      edit, heard⟩
  · -- nobody listens before the tracker
    obtain ⟨front, back, around, early, name, late, told, fault, split, -⟩ := passed.failed
    have listeners : (petAlarmedLate.storeAt petAlarmedLate.store).listeners =
        [.tracker 0, .host "alarm"] := by decide +kernel
    rw [listeners] at around
    cases front with
    | nil => simp at split
    | cons first rest =>
        have again : Listener.tracker 0 ∈ [Listener.host "alarm"] := by
          rw [(List.cons.inj around).2]
          simp
        simp at again

/-- The alarm is set off before the tracker hears that there is a pet: the name is not shown. -/
theorem petAlarmedEarly_passed_over :
    petAlarmedEarly.Heeded 0 ∧ Operation [.set "pet" (.str "yes")] ∧
      petAlarmedEarly.RightBut petAlarmedEarly.store 0 (fun _ => False) ∧
      ∃ fault, (actEach [.set "pet" (.str "yes")] petAlarmedEarly).1 = .error fault ∧
        ¬(actEach [.set "pet" (.str "yes")] petAlarmedEarly).2.RightBut petAlarmedEarly.store 0
          fun _ => False := by
  refine ⟨petAlarmedEarly_heeded, .change (.set _ _), petAlarmedEarly_right, _, rfl, ?_⟩
  intro right
  have answers : (((actEach [.set "pet" (.str "yes")] petAlarmedEarly).2.trackerAt
      0).conditions.get? "petName").map (·.holds ((actEach [.set "pet" (.str "yes")]
        petAlarmedEarly).2.storeAt petAlarmedEarly.store).values) = some true := by decide +kernel
  have kept : ((actEach [.set "pet" (.str "yes")] petAlarmedEarly).2.trackerAt 0).map.get?
      "petName" = some false := by decide +kernel
  obtain ⟨c, has, asked⟩ := Option.map_eq_some_iff.mp answers
  have hidden := right "petName" c has fun _ _ => id
  rw [kept, asked] at hidden
  cases hidden

end Workspace

end Formwork
