import Formwork.Proofs.Host.Informing
import Formwork.Proofs.Host.Order
import Formwork.Proofs.Session.Initial
import Formwork.Proofs.Session.Switching

/-! # Who hears of a session's visibility

Functions of the host are added to the tracker that the session has at the moment. Operations that
change the session's map tell them of the new one, until they are removed or the session is given
another schema. Then there is another tracker, and nobody listens to that.
-/

namespace Formwork

open Workspace Effect

/-- What changes values, or opens or closes a batch. -/
inductive Action.Edits : Action → Prop where
  | set (name : String) (value : Value) : Edits (.set name value)
  | setMany (values : Entries Value) : Edits (.setMany values)
  | sessionSet (name : String) (value : Value) : Edits (.sessionSet name value)
  | sessionSetMany (values : Entries Value) : Edits (.sessionSetMany values)
  | clear (names : List String) (telling : Bool) : Edits (.clear names telling)
  | publish (names : List String) : Edits (.publish names)
  | openBatch : Edits .openBatch
  | closeBatch (failing : Bool) : Edits (.closeBatch failing)

/-- What is done with the session in use: edits, listeners that merely record added and removed, and
    other schemas. -/
inductive Action.OnSession : Action → Prop where
  | edits {action : Action} (edits : action.Edits) : OnSession action
  | watch (listener : String) {actions : List Action} {calls : Nat}
      (idle : Script.Idle { actions, calls }) : OnSession (.sessionWatch listener actions calls)
  | unwatch (listener : String) : OnSession (.unwatch listener)
  | setSchema (key : String) (copied : Bool) : OnSession (.setSchema key copied)

/-- Who is added and not removed, in the order of registration. -/
def Action.registered (present : List String) : Action → List String
  | .sessionWatch listener _ _ => present ++ [listener]
  | .unwatch listener => present.erase listener
  | _ => present

/-- The listeners of a session after an action that had some result. None remains when the schema
    has become another. -/
def Action.audience (present : List String) (action : Action) (result : Except Fault Result) :
    List String :=
  match action, result with
  | .setSchema _ _, .ok (.flag true) => []
  | _, _ => action.registered present

namespace Workspace

variable {w w' : Workspace} {id t : Nat} {present : List String} {action : Action}

/-- The listeners of the session in use after several actions. -/
def audienceAfter (present : List String) : List Action → Workspace → List String
  | [], _ => present
  | action :: rest, w =>
      audienceAfter (action.audience present (act action w).1) rest (act action w).2

/-- The session in use has these listeners. Functions of the host merely record. -/
structure Audience (w : Workspace) (id : Nat) (present : List String) : Prop where
  reached : w.Reached
  records : w.Records
  used : w.session = some id
  listeners : (w.trackerAt (w.sessionAt id).tracker).listeners = present
  watches : ∀ listener ∈ present, w.watches.get? listener = some (w.sessionAt id).tracker

/-! ## Operations of stores -/

theorem informs_of_returns {α : Type} {run : Except Fault α × Workspace}
    (returns : Yields run fun _ _ => True)
    (informs : ∀ answer after, run = (.ok answer, after) → ∃ said, w.Informs t said after) :
    ∃ said, w.Informs t said run.2 := by
  obtain ⟨answer, after, rfl, -⟩ := returns
  exact informs answer after rfl

theorem withBatches_informs (able : w.Able t) (batches : List Nat) :
    w.Informs t [] (w.withBatches batches) := by
  refine .same able ?_ rfl
  exact ⟨⟨able.records.scripts, able.records.watchScripts⟩, rfl, rfl, rfl, fun _ => rfl,
    fun _ => rfl, (List.append_nil _).symm, nofun⟩

theorem act_informs (orderly : w.Orderly []) (records : w.Records) (used : w.session = some id)
    (edits : action.Edits) (t : Nat) : ∃ said, w.Informs t said (act action w).2 := by
  have able : w.Able t := ⟨records, orderly.formed t⟩
  have inform := callbacks_inform w.depthLimit t
  have enough (s : Nat) : (w.storeAt s).trackers.length < w.depthLimit :=
    Nat.lt_of_le_of_lt (orderly.trackers_le s) w.trackers_lt_depthLimit
  have set (s : Nat) (values : Entries Value) :
      ∃ said, w.Informs t said (setValues (callbacks w.depthLimit) s values w).2 :=
    informs_of_returns (setValues_returns orderly records (enough s) values) fun _ _ ran =>
      setValues_informs inform able ran
  unfold act
  rw [get_bind]
  cases edits with
  | set name value =>
      rw [perform, get_bind, snd_bind_pure]
      exact set _ _
  | setMany values =>
      rw [perform, get_bind, snd_bind_pure]
      exact set _ _
  | sessionSet name value =>
      rw [perform, bind_of_ok (currentSession_apply used), snd_bind_pure]
      exact set _ _
  | sessionSetMany values =>
      rw [perform, bind_of_ok (currentSession_apply used), snd_bind_pure]
      exact set _ _
  | clear names telling =>
      rw [perform, get_bind, snd_bind_pure]
      exact informs_of_returns (clear_returns orderly records (enough _) names telling)
        fun _ _ ran => clear_informs inform able ran
  | publish names =>
      rw [perform, get_bind, snd_bind_pure]
      exact informs_of_returns (record_returns orderly records (enough _) names)
        fun _ _ ran => record_informs inform able ran
  | openBatch =>
      have opened : w.Informs t [] (w.updateStore w.store (·.openBatch)) :=
        .updateStore able w.store rfl
      exact ⟨_, opened.trans (withBatches_informs opened.able (w.store :: w.batches))⟩
  | closeBatch failing =>
      rw [perform, snd_bind_pure]
      cases batches : w.batches with
      | nil =>
          rw [endBatch, get_bind, batches]
          exact ⟨[], .refl able⟩
      | cons s rest =>
          have left := withBatches_informs able rest
          have orderly : (w.withBatches rest).Orderly [] :=
            orderly.change (.elsewhere _ rfl rfl rfl rfl rfl rfl rfl)
          rw [endBatch_apply batches]
          obtain ⟨said, informs⟩ := informs_of_returns
            (closeBatch_returns orderly left.records (enough s)) fun _ _ ran =>
              closeBatch_informs inform left.able ran
          exact ⟨_, left.trans informs⟩

theorem Audience.informs (audience : w.Audience id present) (edits : action.Edits) :
    ∃ said, w.Informs (w.sessionAt id).tracker said (act action w).2 :=
  act_informs audience.reached.orderly audience.records audience.used edits _

theorem Audience.edit (audience : w.Audience id present) (edits : action.Edits) :
    (act action w).2.Audience id present := by
  obtain ⟨said, informs⟩ := audience.informs edits
  have session := informs.sessionAt id
  have used := informs.session.trans audience.used
  refine ⟨audience.reached.act action, informs.records, used, ?_, ?_⟩ <;> rw [session]
  · rw [informs.listeners, audience.listeners]
  · rw [informs.watches]
    exact audience.watches

/-! ## Adding and removing listeners -/

theorem Audience.watch (audience : w.Audience id present) (listener : String)
    {actions : List Action} {calls : Nat} (idle : Script.Idle { actions, calls }) :
    (act (.sessionWatch listener actions calls) w).2.Audience id (present ++ [listener]) := by
  have run : (act (.sessionWatch listener actions calls) w).2 =
      (Workspace.watch (w.sessionAt id).tracker listener actions calls w).2 := by
    rw [act, get_bind, perform, bind_of_ok (currentSession_apply audience.used), snd_bind_pure]
  have tracker := trackerAt_updateTracker w (w.sessionAt id).tracker (·.watch listener)
  refine ⟨audience.reached.act _, ?_, ?_, ?_, ?_⟩
  · rw [run]
    exact ⟨audience.records.scripts,
      withScript_idle audience.records.watchScripts listener idle⟩
  · rw [run]
    exact audience.used
  · rw [run]
    show ((w.updateTracker (w.sessionAt id).tracker (·.watch listener)).trackerAt
      (w.sessionAt id).tracker).listeners = _
    rw [tracker, ← audience.listeners]
    rfl
  · rw [run]
    intro other member
    show (w.watches.put listener (w.sessionAt id).tracker).get? other = _
    rw [Entries.get?_put]
    split
    · rfl
    next differ =>
      refine audience.watches other ((List.mem_append.mp member).resolve_right fun last => ?_)
      exact differ (List.mem_singleton.mp last).symm

theorem unwatch_apply (listener : String) (w : Workspace) :
    Workspace.unwatch listener w = match w.watches.get? listener with
      | none => (.error (.unknownName listener), w)
      | some t => (.ok (), w.updateTracker t (·.unwatch listener)) := by
  rw [Workspace.unwatch, get_bind]
  cases w.watches.get? listener <;> rfl

theorem Audience.unwatch (audience : w.Audience id present) (listener : String) :
    (act (.unwatch listener) w).2.Audience id (present.erase listener) := by
  have reached := audience.reached.act (.unwatch listener)
  -- it may have been added to a tracker that the session does not have any more
  have absent (elsewhere : w.watches.get? listener ≠ some (w.sessionAt id).tracker) :
      present.erase listener = present :=
    List.erase_of_not_mem fun member => elsewhere (audience.watches listener member)
  rw [act, get_bind, perform, snd_bind_pure, unwatch_apply] at reached ⊢
  cases found : w.watches.get? listener with
  | none =>
      rw [absent (by rw [found]; exact (Option.some_ne_none _).symm)]
      exact audience
  | some t =>
      rw [found] at reached
      have records : (w.updateTracker t (·.unwatch listener)).Records :=
        ⟨audience.records.scripts, audience.records.watchScripts⟩
      refine ⟨reached, records, audience.used, ?_, fun other member =>
        audience.watches other (List.mem_of_mem_erase member)⟩
      show ((w.updateTracker t (·.unwatch listener)).trackerAt
        (w.sessionAt id).tracker).listeners = _
      by_cases same : (w.sessionAt id).tracker = t
      · rw [same, trackerAt_updateTracker, ← audience.listeners, same]
        rfl
      · rw [trackerAt_updateTracker_of_ne w same, audience.listeners, absent]
        rw [found]
        exact fun read => same (Option.some.inj read).symm

/-! ## Another schema -/

/-- A workspace with a new tracker, before its first cycle. -/
def withTracker (w : Workspace) (s : Nat) (fields : List Field) : Workspace :=
  w.updateTracker w.trackers.fresh fun _ => Tracker.ofFields s fields

theorem trackerAt_withTracker (w : Workspace) (s : Nat) (fields : List Field) :
    (w.withTracker s fields).trackerAt w.trackers.fresh = Tracker.ofFields s fields :=
  trackerAt_updateTracker w w.trackers.fresh _

theorem createTracker_ran (records : w.Records) {depth s : Nat} {fields : List Field}
    (ran : createTracker (callbacks depth) s fields w = (.ok t, w')) :
    t = w.trackers.fresh ∧ ∃ said, (w.withTracker s fields).Proceeds said w' := by
  have made := w.trackerAt_withTracker s fields
  have able : (w.withTracker s fields).Able w.trackers.fresh := by
    refine ⟨⟨records.scripts, records.watchScripts⟩, ?_⟩
    rw [made]
    exact (Tracker.Serves.new s).formed
  have quiet : ((w.withTracker s fields).trackerAt w.trackers.fresh).isAnnouncing = false := by
    rw [made]
    rfl
  rw [createTracker_apply] at ran
  obtain ⟨_, between, discarded, last⟩ := ok_of_bind ran
  cases last
  obtain ⟨answer, _, cycled, last⟩ := ok_of_bind discarded
  cases last
  obtain ⟨said, cycled⟩ := runCycle_itself (callbacks_inform depth _) able quiet cycled
  exact ⟨rfl, said, cycled.toProceeds⟩

/-- Nobody listens to a tracker, and nothing else is in use than before. -/
structure Unheard (t : Nat) (w w' : Workspace) : Prop where
  records : w'.Records
  session : w'.session = w.session
  listeners : (w'.trackerAt t).listeners = []

theorem createTracker_unheard (records : w.Records) {depth s : Nat} {fields : List Field}
    (ran : createTracker (callbacks depth) s fields w = (.ok t, w')) : Unheard t w w' := by
  obtain ⟨rfl, said, proceeds⟩ := createTracker_ran records ran
  refine ⟨proceeds.records, proceeds.session, ?_⟩
  rw [proceeds.listeners, trackerAt_withTracker]
  rfl

theorem Unheard.started (unheard : Unheard t w w') :
    Unheard t w (startTracker t w').2 := by
  rw [startTracker_apply]
  split
  · exact unheard
  · refine ⟨⟨unheard.records.scripts, unheard.records.watchScripts⟩, unheard.session, ?_⟩
    rw [trackerAt_started]
    exact unheard.listeners

theorem takeTracker_unheard (id : Nat) (records : w.Records) {depth s : Nat} {fields : List Field}
    (returns : Yields (createTracker (callbacks depth) s fields w) fun _ _ => True) :
    ∃ after, takeTracker (callbacks depth) id s fields w = (.ok true, after) ∧
      Unheard (after.sessionAt id).tracker w after := by
  obtain ⟨t, created, ran, -⟩ := returns
  have unheard := (createTracker_unheard records ran).started
  refine ⟨(startTracker t created).2.updateSession id fun session => { session with tracker := t },
    ?_, ?_⟩
  · rw [takeTracker, bind_of_ok ran, bind_of_ok (startTracker_apply t created), startTracker_apply]
    rfl
  · rw [updateSession, sessionAt_putSession]
    exact ⟨⟨unheard.records.scripts, unheard.records.watchScripts⟩, unheard.session,
      unheard.listeners⟩

theorem listeners_withSchema (w : Workspace) (id t : Nat) (shared : SharedSchema) :
    ((w.withSchema id shared).trackerAt t).listeners = (w.trackerAt t).listeners := by
  have stopped (w : Workspace) (old : Nat) :
      ((w.stopped old).trackerAt t).listeners = (w.trackerAt t).listeners := by
    unfold stopped
    by_cases same : t = old
    · rw [same, trackerAt_updateTracker]
      rfl
    · rw [trackerAt_updateTracker_of_ne _ same]
      rfl
  unfold withSchema
  rw [stopTracker_apply]
  split
  · exact stopped _ _
  · rfl

theorem withSchema_keeps (w : Workspace) (id : Nat) (shared : SharedSchema) :
    (w.withSchema id shared).session = w.session ∧
      (w.withSchema id shared).watches = w.watches := by
  unfold withSchema
  rw [stopTracker_apply]
  split <;> exact ⟨rfl, rfl⟩

theorem Audience.give (audience : w.Audience id present) (shared : SharedSchema) :
    (setSchema (callbacks w.depthLimit) id shared w).2.Audience id
      (match (setSchema (callbacks w.depthLimit) id shared w).1 with
        | .ok true => []
        | _ => present) := by
  have orderly := audience.reached.orderly
  have known := orderly.session id audience.used
  have reached : (setSchema (callbacks w.depthLimit) id shared w).2.Reached := by
    obtain ⟨start, blank, changes⟩ := audience.reached
    exact ⟨start, blank,
      changes.trans (setSchema_goes (callbacks_change _) orderly known shared).leads⟩
  rw [setSchema_apply] at reached ⊢
  split at reached
  next same =>
    rw [if_pos same]
    exact audience
  next other =>
    rw [if_neg other]
    cases compiled : Ruleset.compile (w.sessionAt id).options shared.schema with
    | error error =>
        rw [compiled] at reached
        have records := audience.records.withSchema id shared
        have kept := w.withSchema_keeps id shared
        have session : ((w.withSchema id shared).addNotices (Ruleset.compileNotices
          (w.sessionAt id).options shared.schema)).sessionAt id = _ := sessionAt_withSchema
        refine ⟨reached, ⟨records.scripts, records.watchScripts⟩, kept.1.trans audience.used, ?_,
          ?_⟩
        · rw [session]
          exact (w.listeners_withSchema id _ shared).trans audience.listeners
        · rw [session]
          intro listener member
          exact (congrArg (·.get? listener) kept.2).trans (audience.watches listener member)
    | ok rules =>
        rw [compiled] at reached
        have returns := orderly.telling_returns known audience.records shared rules
          w.trackers_lt_depthLimit
        obtain ⟨after, ran, unheard⟩ := takeTracker_unheard id
          (audience.records.withRules id shared rules) returns
        have used := unheard.session.trans ((w.withSchema_keeps id shared).1.trans audience.used)
        dsimp only at reached ⊢
        rw [ran] at reached ⊢
        exact ⟨reached, unheard.records, used, unheard.listeners,
          fun _ none => absurd none List.not_mem_nil⟩

theorem Audience.setSchema (audience : w.Audience id present) (key : String) (copied : Bool) :
    (act (.setSchema key copied) w).2.Audience id
      ((Action.setSchema key copied).audience present (act (.setSchema key copied) w).1) := by
  cases found : w.schemas.get? key with
  | none =>
      have unknown : sharedSchema key w = (.error (.unknownName key), w) := by
        rw [sharedSchema, get_bind, found]
        rfl
      rw [Workspace.act, get_bind, perform, bind_of_error unknown]
      exact audience
  | some schema =>
      have ran : ∃ shared, act (.setSchema key copied) w =
          (Workspace.setSchema (callbacks w.depthLimit) id shared >>= fun another =>
            pure (.flag another)) w := by
        refine ⟨if copied then { key := none, schema } else { key := some key, schema }, ?_⟩
        rw [Workspace.act, get_bind, perform, bind_of_ok (sharedSchema_apply found)]
        exact bind_of_ok (sessionInUse_apply audience.used) _
      obtain ⟨shared, ran⟩ := ran
      have given := audience.give shared
      rw [ran, snd_bind_pure, fst_bind_pure]
      rcases result : (Workspace.setSchema (callbacks w.depthLimit) id shared w).1
        with fault | _ | _ <;> rw [result] at given <;> exact given

/-! ## All that is done with a session -/

theorem Audience.act (audience : w.Audience id present) (onSession : action.OnSession) :
    (act action w).2.Audience id (action.audience present (act action w).1) := by
  cases onSession with
  | edits edits =>
      have kept := audience.edit edits
      cases edits <;> exact kept
  | watch listener idle => exact audience.watch listener idle
  | unwatch listener => exact audience.unwatch listener
  | setSchema key copied => exact audience.setSchema key copied

theorem Audience.run (audience : w.Audience id present) {actions : List Action}
    (onSession : ∀ action ∈ actions, action.OnSession) :
    (attempts actions w).2.Audience id (audienceAfter present actions w) := by
  induction actions generalizing w present with
  | nil => exact audience
  | cons action rest ih =>
      rw [List.forall_mem_cons] at onSession
      exact ih (audience.act onSession.1) onSession.2

/-! ## Sessions that open -/

theorem createSession_unheard (records : w.Records) {depth s : Nat} {shared : SharedSchema}
    {options : CompileOptions} {session : Session}
    (ran : createSession (callbacks depth) shared options s w = (.ok session, w')) :
    w'.Records ∧ (w'.trackerAt session.tracker).listeners = [] := by
  obtain ⟨rules, compiled, compiling, rest⟩ := ok_of_bind ran
  obtain ⟨-, notes⟩ := compileRules_ok records compiling
  obtain ⟨t, created, creating, rest⟩ := ok_of_bind rest
  have unheard := (createTracker_unheard notes.records creating).started
  obtain ⟨_, _, starting, last⟩ := ok_of_bind rest
  rw [starting] at unheard
  cases last
  exact ⟨unheard.records, unheard.listeners⟩

theorem adoptSession_apply (name : String) (session : Session) (w : Workspace) :
    (adoptSession name session w).2.session = some w.sessions.fresh ∧
      (adoptSession name session w).2.sessionAt w.sessions.fresh = session :=
  ⟨rfl, sessionAt_putSession w w.sessions.fresh session⟩

theorem Audience.opened (reached : w.Reached) (records : w.Records) {key name : String}
    {external : Bool} {initial : Entries Value} {result : Result}
    (ran : Workspace.act (.openSession key name external initial) w = (.ok result, w')) :
    ∃ id, w'.Audience id [] := by
  have reached := reached.act (.openSession key name external initial)
  rw [ran] at reached
  rw [Workspace.act, get_bind, perform] at ran
  obtain ⟨shared, _, found, rest⟩ := ok_of_bind ran
  obtain ⟨-, rfl⟩ := sharedSchema_ok found
  rw [get_bind] at rest
  have adopt {session : Session} {between : Workspace}
      (created : between.Records ∧ (between.trackerAt session.tracker).listeners = [])
      (adopted : (adoptSession name session >>= fun _ => pure .done) between = (.ok result, w')) :
      ∃ id, w'.Audience id [] := by
    have after := congrArg Prod.snd adopted
    rw [snd_bind_pure] at after
    obtain ⟨used, session⟩ := adoptSession_apply name session between
    rw [after] at used session
    refine ⟨_, reached, ?_, used, ?_, fun _ none => absurd none List.not_mem_nil⟩
    · subst after
      exact ⟨created.1.scripts, created.1.watchScripts⟩
    · subst after
      rw [session]
      exact created.2
  cases external with
  | false =>
      obtain ⟨session, between, opening, adopted⟩ := ok_of_bind rest
      refine adopt (createSession_unheard ?_ opening) adopted
      exact ⟨records.scripts, records.watchScripts⟩
  | true =>
      obtain ⟨session, between, joining, adopted⟩ := ok_of_bind rest
      refine adopt ?_ adopted
      unfold joinSession at joining
      split at joining
      · obtain ⟨_, written, writing, creating⟩ := ok_of_bind joining
        have recording := setValues_records records w.depthLimit w.store initial
        rw [writing] at recording
        exact createSession_unheard recording.records creating
      · exact createSession_unheard records joining

/-! ## Who is told of a new map -/

/-- A function of the host listens to another tracker, which listens to a store. -/
def ListensElsewhere (w : Workspace) (t : Nat) (listener : String) : Prop :=
  ∃ s, ∃ other ∈ (w.storeAt s).trackers, other ≠ t ∧ listener ∈ (w.trackerAt other).listeners

/-- After any calls on a session, and among them changes of its schema, an operation on a store
    tells those who were added to the session since it took its last schema, and not removed, of the
    session's new map, if it becomes another. Nobody else is told of anything, unless it listens to
    another tracker. -/
theorem Audience.hears_new_maps (audience : w.Audience id present) {calls : List Action}
    (onSession : ∀ action ∈ calls, action.OnSession) {edit : Action} (edits : edit.Edits) :
    let before := (attempts calls w).2
    let after := (Workspace.act edit before).2
    let map := after.visibilityOf (after.sessionAt id)
    ∃ said, after.events = before.events ++ said ∧
      (map ≠ before.visibilityOf (before.sessionAt id) →
        ∀ listener ∈ audienceAfter present calls w, Event.shown listener map ∈ said) ∧
      ∀ listener other, Event.shown listener other ∈ said →
        listener ∈ audienceAfter present calls w ∨
          before.ListensElsewhere (before.sessionAt id).tracker listener := by
  intro before after map
  have serving := audience.run onSession
  obtain ⟨said, informs⟩ := serving.informs edits
  have session : after.sessionAt id = before.sessionAt id := informs.sessionAt id
  refine ⟨said, informs.events, fun changed listener member => ?_, fun listener other told => ?_⟩
  · have same : map = (after.trackerAt (before.sessionAt id).tracker).map := by
      rw [← session]
      rfl
    rw [same] at changed ⊢
    exact informs.told changed listener (serving.listeners ▸ member)
  · obtain ⟨s, t, attached, listens⟩ := informs.watching listener other told
    by_cases own : t = (before.sessionAt id).tracker
    · subst own
      exact .inl (serving.listeners ▸ listens)
    · exact .inr ⟨s, t, attached, own, listens⟩

/-- A session for the form about a pet, which there is twice. -/
def petTwinned : Workspace :=
  (act (.openSession "pet" "s" false []) { schemas := [("pet", petForm), ("twin", petForm)] }).2

theorem petTwinned_audience : petTwinned.Audience 0 [] := by
  have start : Blank { schemas := [("pet", petForm), ("twin", petForm)] } :=
    ⟨fun _ => rfl, rfl, rfl, rfl, rfl, rfl, rfl⟩
  have ran : act (.openSession "pet" "s" false [])
      { schemas := [("pet", petForm), ("twin", petForm)] } = (.ok .done, petTwinned) := rfl
  obtain ⟨id, audience⟩ := Audience.opened start.reached (.unscripted rfl rfl) ran
  cases audience.used
  exact audience

/-- When there is a pet, a function of the host that listens is told that the map is another. -/
theorem petTwinned_hears :
    petTwinned.Audience 0 [] ∧
      (∀ action ∈ [Action.sessionWatch "shows" [] 0], action.OnSession) ∧
      (Action.sessionSet "pet" (.str "yes")).Edits ∧
      let before := (attempts [.sessionWatch "shows" [] 0] petTwinned).2
      let after := (act (.sessionSet "pet" (.str "yes")) before).2
      let map := after.visibilityOf (after.sessionAt 0)
      map ≠ before.visibilityOf (before.sessionAt 0) ∧
        ∃ said, after.events = before.events ++ said ∧ Event.shown "shows" map ∈ said := by
  have onSession : ∀ action ∈ [Action.sessionWatch "shows" [] 0], action.OnSession := by
    intro action member
    cases List.mem_singleton.mp member
    exact .watch "shows" (.inl rfl)
  have edits : (Action.sessionSet "pet" (.str "yes")).Edits := .sessionSet _ _
  have present : "shows" ∈ audienceAfter [] [.sessionWatch "shows" [] 0] petTwinned := by
    decide +kernel
  obtain ⟨said, same, told, -⟩ := petTwinned_audience.hears_new_maps onSession edits
  have heard := told (by decide +kernel) "shows" present
  exact ⟨petTwinned_audience, onSession, edits, by decide +kernel, said, same, heard⟩

/-- Who listened before the schema became another, and has not been removed, is not told. -/
theorem petTwinned_unheard :
    ¬∀ (w : Workspace) (id : Nat), w.Audience id [] → ∀ calls : List Action,
      (∀ action ∈ calls, action.OnSession) → ∀ edit : Action, edit.Edits →
        let before := (attempts calls w).2
        let after := (act edit before).2
        let map := after.visibilityOf (after.sessionAt id)
        map ≠ before.visibilityOf (before.sessionAt id) →
          ∀ listener ∈ calls.foldl Action.registered [],
            Event.shown listener map ∈ after.events.drop before.events.length := by
  intro always
  have onSession : ∀ action ∈ [Action.sessionWatch "shows" [] 0, .setSchema "twin" false],
      action.OnSession := by
    intro action member
    rcases List.mem_pair.mp member with rfl | rfl
    · exact .watch "shows" (.inl rfl)
    · exact .setSchema "twin" false
  have told := always petTwinned 0 petTwinned_audience _ onSession
    (.sessionSet "pet" (.str "yes")) (.sessionSet _ _) (by decide +kernel) "shows"
    (by decide +kernel)
  have silent : (act (.sessionSet "pet" (.str "yes")) (attempts
      [.sessionWatch "shows" [] 0, .setSchema "twin" false] petTwinned).2).2.events.isEmpty =
        true := by decide +kernel
  rw [List.isEmpty_iff.mp silent, List.drop_nil] at told
  cases told

end Workspace

end Formwork
