import Formwork.Proofs.Host.Mirroring
import Formwork.Proofs.Store.Watchers

/-! # The order of declarations

Two hosts have the same schemas, but for the order in which one of them declares its fields, and do
the same with stores and trackers. Everything that happens is the same in both: what they are
answered, which values are removed, which fields are shown, and what listeners are told and do in
their turn.
-/

namespace Formwork

open Effect

/-- Two results that come to the same: a new tracker may watch its fields in another order. -/
inductive Result.Mirrors : Result → Result → Prop where
  | same (result : Result) : Result.Mirrors result result
  | tracking {watched others : List String} (same : Names.Same watched others) (active : Bool) :
      Result.Mirrors (.tracking watched active) (.tracking others active)

namespace Workspace

variable {hooks : Hooks}

/-! ## Listening -/

theorem withScript_onStores {scripts : Entries Script} {listener : String} {script : List Action}
    (old : ∀ name script, scripts.get? name = some script → script.OnStores)
    (new : ∀ action ∈ script, action.OnStores) (times : Nat) (name : String) (found : Script)
    (has : (withScript scripts listener script times).get? name = some found) :
    found.OnStores := by
  unfold withScript at has
  split at has
  · exact old name found has
  · rw [Entries.get?_put] at has
    split at has
    · cases has
      exact new
    · exact old name found has

theorem subscribe_mirrors (subscription listener : String) {script : List Action}
    (scripted : ∀ action ∈ script, action.OnStores) (times : Nat) :
    Effect.Mirrors Eq (subscribe subscription listener script times)
      (subscribe subscription listener script times) := by
  refine .change fun w w' mirrors => ?_
  have listening := mirrors.updateInUse (·.subscribe (.host listener))
    ((mirrors.stores w.store).subscribe (.host listener))
  exact listening.reframe
    (fun w => { w with
      scripts := withScript w.scripts listener script times
      subscriptions := w.subscriptions.put subscription
        { store := w.store, listener := .host listener } })
    (fun _ => rfl) (withScript_onStores mirrors.scripts scripted times) mirrors.watchScripts

theorem unsubscribe_mirrors (name : String) :
    Effect.Mirrors Eq (unsubscribe name) (unsubscribe name) := by
  refine .bind .read fun w w' mirrors => ?_
  have subscriptions : w.subscriptions = w'.subscriptions :=
    mirrors.reads (·.subscriptions) fun _ => rfl
  rw [subscriptions]
  refine .bind (.orFault_self _ _) ?_
  rintro subscription _ rfl
  refine .ite Iff.rfl (.andThen (.change fun _ _ mirrors => ?_) ?_) (.pure rfl)
  · exact mirrors.updateStore _ ((mirrors.stores _).unsubscribe _)
  · exact .change fun _ _ mirrors => mirrors.reframe
      (fun w => { w with
        subscriptions := w.subscriptions.put name { subscription with isClosed := true } })
      (fun _ => rfl) mirrors.scripts mirrors.watchScripts

theorem watch_mirrors (id : Nat) (listener : String) {script : List Action}
    (scripted : ∀ action ∈ script, action.OnStores) (times : Nat) :
    Effect.Mirrors Eq (watch id listener script times) (watch id listener script times) := by
  refine .change fun w w' mirrors => ?_
  have tracker := mirrors.trackers id
  have watched : (w.updateTracker id (·.watch listener)).Mirrors
      (w'.updateTracker id (·.watch listener)) :=
    mirrors.updateTracker id
      { tracker with listeners := congrArg (· ++ [listener]) tracker.listeners }
  exact watched.reframe
    (fun w => { w with
      watchScripts := withScript w.watchScripts listener script times
      watches := w.watches.put listener id })
    (fun _ => rfl) mirrors.scripts (withScript_onStores mirrors.watchScripts scripted times)

theorem unwatch_mirrors (listener : String) :
    Effect.Mirrors Eq (unwatch listener) (unwatch listener) := by
  refine .bind .read fun w w' mirrors => ?_
  have watches : w.watches = w'.watches := mirrors.reads (·.watches) fun _ => rfl
  rw [watches]
  refine .bind (.orFault_self _ _) ?_
  rintro id _ rfl
  refine .change fun _ _ mirrors => mirrors.updateTracker id ?_
  have tracker := mirrors.trackers id
  exact { tracker with listeners := congrArg (·.erase listener) tracker.listeners }

/-! ## Batches -/

theorem beginBatch_mirrors : Effect.Mirrors Eq beginBatch beginBatch := by
  refine .change fun w w' mirrors => ?_
  have opened := mirrors.updateInUse (·.openBatch) (mirrors.stores w.store).openBatch
  exact opened.reframe (fun w => { w with batches := w.store :: w.batches })
    (fun _ => rfl) mirrors.scripts mirrors.watchScripts

theorem endBatch_mirrors (mirror : hooks.Mirror) :
    Effect.Mirrors Eq (endBatch hooks) (endBatch hooks) := by
  refine .bind .read fun w w' mirrors => ?_
  have batches : w.batches = w'.batches := mirrors.reads (·.batches) fun _ => rfl
  rw [batches]
  cases w'.batches with
  | nil => exact .fail _
  | cons store rest =>
      refine .andThen (.change fun _ _ mirrors => ?_) (closeBatch_mirrors mirror store)
      exact mirrors.reframe (fun w => { w with batches := rest }) (fun _ => rfl) mirrors.scripts
        mirrors.watchScripts

/-! ## All actions -/

theorem trackerInUse_mirrors : Effect.Mirrors Eq trackerInUse trackerInUse := by
  refine .bind .read fun w w' mirrors => ?_
  have tracker : w.tracker = w'.tracker := mirrors.reads (·.tracker) fun _ => rfl
  rw [tracker]
  exact .orFault_self _ _

theorem sharedSchema_mirrors (key : String) :
    Effect.Mirrors (fun shared other : SharedSchema =>
      Field.SameByName shared.schema.fields other.schema.fields)
      (sharedSchema key) (sharedSchema key) := by
  refine .bind .read fun w w' mirrors => ?_
  exact .bind (.orFault _ (mirrors.schemas key)) fun _ _ same => .pure same

theorem takeTracker_mirrors (id : Nat) :
    Effect.Mirrors Eq (modify fun w => { w with tracker := some id })
      (modify fun w => { w with tracker := some id }) :=
  .change fun _ _ mirrors => mirrors.reframe (fun w => { w with tracker := some id })
    (fun _ => rfl) mirrors.scripts mirrors.watchScripts

theorem track_mirrors (mirror : hooks.Mirror) (key : String) :
    Effect.Mirrors Result.Mirrors (perform hooks (.track key)) (perform hooks (.track key)) := by
  refine .bind (sharedSchema_mirrors key) fun shared other same => ?_
  refine .bind .read fun w w' mirrors => ?_
  rw [mirrors.store]
  refine .bind (createTracker_mirrors mirror _ same) ?_
  rintro id _ rfl
  refine .andThen (takeTracker_mirrors id) (.bind .read fun now now' current => ?_)
  have tracker := current.trackers id
  dsimp only
  rw [tracker.isActive]
  exact .pure (.tracking tracker.watched _)

theorem active_mirrors {toggle : Nat → Effect Unit}
    (toggles : ∀ id, Effect.Mirrors Eq (toggle id) (toggle id)) :
    Effect.Mirrors Result.Mirrors
      (do toggle (← trackerInUse); return .flag ((← get).trackerAt (← trackerInUse)).isActive)
      (do toggle (← trackerInUse); return .flag ((← get).trackerAt (← trackerInUse)).isActive) := by
  refine .bind trackerInUse_mirrors ?_
  rintro id _ rfl
  refine .andThen (toggles id) (.bind .read fun w w' mirrors => .bind trackerInUse_mirrors ?_)
  rintro other _ rfl
  rw [(mirrors.trackers other).isActive]
  exact .pure (.same _)

theorem perform_mirrors (mirror : hooks.Mirror) {action : Action} (onStores : action.OnStores) :
    Effect.Mirrors Result.Mirrors (perform hooks action) (perform hooks action) := by
  have done {first : Effect Unit} (h : Effect.Mirrors Eq first first) (result : Result) :
      Effect.Mirrors Result.Mirrors (do first; return result) (do first; return result) :=
    .andThen h (.pure (.same result))
  -- what is done to the store in use
  have inUse {rest : Nat → Effect Result}
      (h : ∀ store, Effect.Mirrors Result.Mirrors (rest store) (rest store)) :
      Effect.Mirrors Result.Mirrors (do rest (← get).store) (do rest (← get).store) := by
    refine .bind .read fun w w' mirrors => ?_
    rw [mirrors.store]
    exact h w'.store
  cases onStores with
  | get name fallback =>
      refine .bind .read fun w w' mirrors => .bind .read fun now now' current => ?_
      rw [current.store, (mirrors.stores _).values]
      exact .pure (.same _)
  | has name =>
      refine .bind .read fun w w' mirrors => .bind .read fun now now' current => ?_
      rw [current.store, (mirrors.stores _).values]
      exact .pure (.same _)
  | set name value => exact inUse fun store => done (setValues_mirrors mirror store _) _
  | setMany values => exact inUse fun store => done (setValues_mirrors mirror store values) _
  | clear names telling =>
      refine inUse fun store => .bind (clear_mirrors mirror store names telling) ?_
      rintro removed _ rfl
      exact .pure (.same _)
  | publish names =>
      exact inUse fun store => done (record_mirrors mirror store fun _ => Iff.rfl) _
  | openBatch => exact done beginBatch_mirrors _
  | closeBatch failing => exact done (endBatch_mirrors mirror) _
  | subscribe subscription listener times scripted =>
      exact done (subscribe_mirrors subscription listener scripted times) _
  | unsubscribe subscription => exact done (unsubscribe_mirrors subscription) _
  | fail fault => exact .fail _
  | track key => exact track_mirrors mirror key
  | start => exact active_mirrors startTracker_mirrors
  | stop => exact active_mirrors stopTracker_mirrors
  | watch listener times scripted =>
      refine .bind trackerInUse_mirrors ?_
      rintro id _ rfl
      exact done (watch_mirrors id listener scripted times) _
  | unwatch listener => exact done (unwatch_mirrors listener) _
  | isVisible name =>
      refine .bind .read fun w w' mirrors => .bind trackerInUse_mirrors ?_
      rintro id _ rfl
      rw [(mirrors.trackers id).isVisible]
      exact .pure (.same _)

/-! ## Callbacks -/

theorem performAll_mirrors (mirror : hooks.Mirror) {actions : List Action}
    (onStores : ∀ action ∈ actions, action.OnStores) :
    Effect.Mirrors Eq (performAll hooks actions) (performAll hooks actions) := by
  induction actions with
  | nil => exact .pure rfl
  | cons action rest ih =>
      rw [List.forall_mem_cons] at onStores
      exact .andThen (perform_mirrors mirror onStores.1).discard (ih onStores.2)

theorem nextCall_onStores {scripts : Entries Script}
    (onStores : ∀ name script, scripts.get? name = some script → script.OnStores)
    (listener : String) :
    (∀ action ∈ (nextCall ((scripts.get? listener).getD {})).1, action.OnStores) ∧
      (nextCall ((scripts.get? listener).getD {})).2.OnStores := by
  have next : ((scripts.get? listener).getD {}).OnStores := by
    cases found : scripts.get? listener with
    | none => exact fun action => nofun
    | some script => exact onStores listener script found
  unfold nextCall
  split
  · exact ⟨fun action => nofun, next⟩
  · exact ⟨next, next⟩

theorem put_onStores {scripts : Entries Script}
    (onStores : ∀ name script, scripts.get? name = some script → script.OnStores)
    (listener : String) {script : Script} (new : script.OnStores) (name : String) (found : Script)
    (has : (scripts.put listener script).get? name = some found) : found.OnStores := by
  rw [Entries.get?_put] at has
  split at has
  · cases has
    exact new
  · exact onStores name found has

/-- Two scripts that are one, and act on stores and trackers only. -/
def SameActions (actions others : List Action) : Prop :=
  actions = others ∧ ∀ action ∈ actions, action.OnStores

theorem takeActions_mirrors (listener : String) :
    Effect.Mirrors SameActions (takeActions listener) (takeActions listener) := by
  refine .bind .read fun w w' mirrors => ?_
  have scripts : w.scripts = w'.scripts := mirrors.reads (·.scripts) fun _ => rfl
  obtain ⟨now, later⟩ := nextCall_onStores mirrors.scripts listener
  rw [← scripts]
  refine .andThen (.change fun _ _ mirrors => ?_) (.pure ⟨rfl, now⟩)
  exact mirrors.reframe (fun w => { w with scripts := w.scripts.put listener _ }) (fun _ => rfl)
    (put_onStores mirrors.scripts listener later) mirrors.watchScripts

theorem takeWatchActions_mirrors (listener : String) :
    Effect.Mirrors SameActions (takeWatchActions listener) (takeWatchActions listener) := by
  refine .bind .read fun w w' mirrors => ?_
  have scripts : w.watchScripts = w'.watchScripts := mirrors.reads (·.watchScripts) fun _ => rfl
  obtain ⟨now, later⟩ := nextCall_onStores mirrors.watchScripts listener
  rw [← scripts]
  refine .andThen (.change fun _ _ mirrors => ?_) (.pure ⟨rfl, now⟩)
  exact mirrors.reframe (fun w => { w with watchScripts := w.watchScripts.put listener _ })
    (fun _ => rfl) mirrors.scripts (put_onStores mirrors.watchScripts listener later)

theorem callbacks_mirror (depth : Nat) : (callbacks depth).Mirror := by
  induction depth with
  | zero => exact ⟨fun _ _ _ _ _ => .fail .tooDeep, fun _ _ _ _ => .fail .tooDeep⟩
  | succ depth ih =>
      refine ⟨fun listener names others values same => ?_, fun listener map other same => ?_⟩
      · cases listener with
        | tracker id => exact react_mirrors ih id same
        | host name =>
            refine .andThen (.change fun _ _ mirrors => ?_) (.bind (takeActions_mirrors name) ?_)
            · exact mirrors.addEvent (.changed name same values)
            · rintro actions _ ⟨rfl, onStores⟩
              exact performAll_mirrors ih onStores
      · refine .andThen (.change fun _ _ mirrors => ?_)
          (.bind (takeWatchActions_mirrors listener) ?_)
        · exact mirrors.addEvent (.shown listener same)
        · rintro actions _ ⟨rfl, onStores⟩
          exact performAll_mirrors ih onStores

theorem act_mirrors {action : Action} (onStores : action.OnStores) :
    Effect.Mirrors Result.Mirrors (act action) (act action) := by
  refine .bind .read fun w w' mirrors => ?_
  rw [depthLimit, mirrors.trackers_length]
  exact perform_mirrors (callbacks_mirror _) onStores

/-! ## Runs -/

/-- Attempt actions one after the other, whatever comes of each. -/
def attempts : List Action → Workspace → List (Except Fault Result) × Workspace
  | [], w => ([], w)
  | action :: rest, w =>
      let (result, after) := act action w
      let (results, last) := attempts rest after
      (result :: results, last)

theorem attempts_mirrors {w w' : Workspace} (mirrors : w.Mirrors w') {actions : List Action}
    (onStores : ∀ action ∈ actions, action.OnStores) :
    List.Forall₂ (Answers Result.Mirrors) (attempts actions w).1 (attempts actions w').1 ∧
      (attempts actions w).2.Mirrors (attempts actions w').2 := by
  induction actions generalizing w w' with
  | nil => exact ⟨.nil, mirrors⟩
  | cons action rest ih =>
      rw [List.forall_mem_cons] at onStores
      obtain ⟨answers, after⟩ := act_mirrors onStores.1 w w' mirrors
      obtain ⟨results, last⟩ := ih after onStores.2
      exact ⟨.cons answers results, last⟩

/-- Trackers have maps for their fields, and functions of the host act on stores and trackers
    only. -/
structure OnStores (w : Workspace) : Prop where
  formed : ∀ id, (w.trackerAt id).Formed
  scripts : ∀ name script, w.scripts.get? name = some script → script.OnStores
  watchScripts : ∀ name script, w.watchScripts.get? name = some script → script.OnStores

def knowing (w : Workspace) (key : String) (schema : Schema) : Workspace :=
  { w with schemas := w.schemas.put key schema }

variable {w : Workspace} {schema reordered : Schema}

theorem OnStores.mirrors (plain : w.OnStores) (key : String)
    (same : Field.SameByName schema.fields reordered.fields) :
    (w.knowing key schema).Mirrors (w.knowing key reordered) where
  stores := fun _ => .refl _
  trackers := fun id => .refl (plain.formed id).distinct (plain.formed id).fits.distinct
  keys := rfl
  schemas := by
    intro name
    rw [knowing, knowing, Entries.get?_put, Entries.get?_put]
    split
    · exact .some same
    · cases w.schemas.get? name with
      | none => exact .none
      | some other => exact .some fun _ => rfl
  frame := rfl
  events := List.forall₂_same.mpr fun event _ => .same event
  removals := rfl
  scripts := plain.scripts
  watchScripts := plain.watchScripts

/-- What comes of two runs is the same, for the host and for its listeners, and it would be the same
    if the trackers of the second one went through their sets in other orders. -/
structure SameCourse (first second : List (Except Fault Result) × Workspace) : Prop where
  results : List.Forall₂ (Answers Result.Mirrors) first.1 second.1
  shown : ∀ id name,
    (first.2.trackerAt id).isVisible name = (second.2.trackerAt id).isVisible name
  values : ∀ id, (first.2.storeAt id).values = (second.2.storeAt id).values
  removed : removals first.2.notices = removals second.2.notices
  told : List.Forall₂ Event.Mirrors first.2.events second.2.events
  cycles : ∀ id, (first.2.trackerAt id).SameCycles (second.2.trackerAt id)

/-- Whatever a host does with stores and trackers, and whatever its listeners do to them in their
    turn, it does not matter in which order a schema declares fields of distinct names. -/
theorem OnStores.any_order (plain : w.OnStores) (unique : (schema.fields.map (·.name)).Nodup)
    (permuted : schema.fields.Perm reordered.fields) (key : String) {actions : List Action}
    (onStores : ∀ action ∈ actions, action.OnStores) :
    SameCourse (attempts actions (w.knowing key schema))
        (attempts actions (w.knowing key reordered)) ∧
      ∀ store, (Tracker.ofFields store schema.fields).SameCycles
        (Tracker.ofFields store reordered.fields) := by
  have same := Field.sameByName_of_perm unique permuted
  obtain ⟨results, last⟩ := attempts_mirrors (plain.mirrors key same) onStores
  refine ⟨?_, fun store => (Tracker.ofFields_mirrors same store).sameCycles⟩
  exact
    { results
      shown := fun id => (last.trackers id).isVisible
      values := fun id => (last.stores id).values
      removed := last.removals
      told := last.events
      cycles := fun id => (last.trackers id).sameCycles }

/-! ## Pets with labels, for instance -/

/-- The fields of a form about a pet, in which a label is asked for where the pet has a name. -/
def petLabelFields : List Field :=
  [{ name := "pet" }, petName,
    { name := "label"
      condition := some
        { field := some "petName", operator := none, value := .str "Rex", equals := none
          conditions := none, combinator := none } }]

def petLabelForm : Schema where
  title := "Pet"
  body := .flat petLabelFields

def petLabelReversed : Schema where
  title := "Pet"
  body := .flat petLabelFields.reverse

/-- A store that holds all values of the form. -/
def petLabelled : Workspace where
  stores := [(0, { values :=
    [("pet", .str "yes"), ("petName", .str "Rex"), ("label", .str "home")] })]

/-- The pet goes while a listener is about to take note of every change. -/
def petLabelActions : List Action :=
  [.track "pet", .start, .watch "shows" [] 0,
    .subscribe "s" "notes" [.set "mood" (.str "sad")] 1, .set "pet" (.str "no")]

theorem petLabelled_onStores : petLabelled.OnStores where
  formed := fun _ => (by decide : Tracker.Formed default)
  scripts := nofun
  watchScripts := nofun

theorem petLabelActions_onStores : ∀ action ∈ petLabelActions, action.OnStores := by
  intro action member
  simp only [petLabelActions, List.mem_cons, List.not_mem_nil, or_false] at member
  rcases member with rfl | rfl | rfl | rfl | rfl
  · exact .track _
  · exact .start
  · exact .watch _ _ nofun
  · exact .subscribe _ _ _ fun action member => List.mem_singleton.mp member ▸ .set _ _
  · exact .set _ _

/-- The name goes with the pet, and the label with the name, in whichever order they are
    declared. -/
theorem petLabelled_any_order :
    petLabelled.OnStores ∧ (petLabelForm.fields.map (·.name)).Nodup ∧
      petLabelForm.fields.Perm petLabelReversed.fields ∧
      (∀ action ∈ petLabelActions, action.OnStores) ∧
      removals (attempts petLabelActions (petLabelled.knowing "pet" petLabelForm)).2.notices =
        [["petName"], ["label"]] ∧
      SameCourse (attempts petLabelActions (petLabelled.knowing "pet" petLabelForm))
        (attempts petLabelActions (petLabelled.knowing "pet" petLabelReversed)) ∧
      ∀ store, (Tracker.ofFields store petLabelForm.fields).SameCycles
        (Tracker.ofFields store petLabelReversed.fields) := by
  have unique : (petLabelForm.fields.map (·.name)).Nodup := by decide
  have permuted : petLabelForm.fields.Perm petLabelReversed.fields :=
    (List.reverse_perm petLabelFields).symm
  exact ⟨petLabelled_onStores, unique, permuted, petLabelActions_onStores, by decide +kernel,
    petLabelled_onStores.any_order unique permuted "pet" petLabelActions_onStores⟩

end Workspace

end Formwork
