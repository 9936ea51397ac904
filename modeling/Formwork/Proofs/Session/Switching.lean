import Formwork.Proofs.Host.Actions
import Formwork.Proofs.Host.Recording

/-! # Sessions that change their schema

A session that is given another schema gives up its tracker first, then takes the schema, then the
ruleset, and last a new tracker. There are two ways to fail in the middle of this: the ruleset does
not compile, or someone who is told of the values that the new tracker removes fails. Either way the
session stays as it is then, and its old tracker hears of nothing any more.
-/

namespace Formwork

open Workspace Effect

namespace Workspace

variable {hooks : Hooks} {shut : List Nat} {w w' : Workspace} {s t id : Nat}
  {shared : SharedSchema} {rules : Ruleset}

/-! ## Trackers that hear of changes, and that do not -/

/-- The tracker is stopped: it listens to no store. -/
structure Silent (w : Workspace) (t : Nat) : Prop where
  idle : (w.trackerAt t).isActive = false
  unheard : ∀ s, .tracker t ∉ (w.storeAt s).listeners

theorem Orderly.silent (orderly : w.Orderly shut) (idle : (w.trackerAt t).isActive = false) :
    w.Silent t := by
  refine ⟨idle, fun s member => ?_⟩
  have listed : 0 < (w.storeAt s).trackers.count t :=
    List.count_pos_iff.mpr (Store.mem_trackers member)
  simp [orderly.attached, attachment, idle] at listed

/-! ## Where the session stands before it takes a new tracker -/

theorem stopped_idle (w : Workspace) (t : Nat) :
    ((w.stopped t).trackerAt t).isActive = false := by
  rw [stopped, trackerAt_updateTracker]

theorem storeAt_stopped (w : Workspace) (t s : Nat) :
    (w.stopped t).storeAt s = w.storeAt s ∨
      (w.stopped t).storeAt s = (w.storeAt s).unsubscribe (.tracker t) := by
  by_cases same : s = (w.trackerAt t).store
  · refine .inr ?_
    subst same
    exact storeAt_updateStore w (w.trackerAt t).store (·.unsubscribe (.tracker t))
  · exact .inl (storeAt_updateStore_of_ne w same (·.unsubscribe (.tracker t)))

theorem withSchema_idle :
    ((w.withSchema id shared).trackerAt (w.sessionAt id).tracker).isActive = false := by
  unfold withSchema
  rw [stopTracker_apply]
  split
  next => exact stopped_idle _ _
  next idle => exact Bool.not_eq_true _ ▸ idle

theorem sessionAt_withSchema :
    (w.withSchema id shared).sessionAt id = { w.sessionAt id with shared } := by
  unfold withSchema
  rw [updateSession, sessionAt_putSession, stopTracker_apply]
  split <;> rfl

theorem sessionAt_withRules :
    (w.withRules id shared rules).sessionAt id = { w.sessionAt id with shared, rules } := by
  have before : ((w.withSchema id shared).addNotices (Ruleset.compileNotices
      (w.sessionAt id).options shared.schema)).sessionAt id = _ := sessionAt_withSchema
  rw [withRules, updateSession, sessionAt_putSession, before]

/-- A store is as it was, except perhaps that the old tracker does not listen to it. -/
theorem storeAt_withSchema (w : Workspace) (id s : Nat) (shared : SharedSchema) :
    (w.withSchema id shared).storeAt s = w.storeAt s ∨
      (w.withSchema id shared).storeAt s =
        (w.storeAt s).unsubscribe (.tracker (w.sessionAt id).tracker) := by
  unfold withSchema
  rw [stopTracker_apply]
  split
  next => exact storeAt_stopped (w.addNotices _) _ s
  next => exact .inl rfl

theorem values_withSchema (s : Nat) :
    ((w.withSchema id shared).storeAt s).values = (w.storeAt s).values := by
  rcases w.storeAt_withSchema id s shared with same | same <;> rw [same]
  rfl

theorem listening_withSchema (w : Workspace) (id s : Nat) (shared : SharedSchema) :
    ((w.withSchema id shared).storeAt s).trackers.length ≤ (w.storeAt s).trackers.length := by
  rcases w.storeAt_withSchema id s shared with same | same
  · exact Nat.le_of_eq (congrArg (·.trackers.length) same)
  · rw [same, Store.trackers_unsubscribe]
    exact List.length_erase_le

theorem Records.withSchema (records : w.Records) (id : Nat) (shared : SharedSchema) :
    (w.withSchema id shared).Records := by
  unfold Workspace.withSchema
  rw [stopTracker_apply]
  split <;> exact ⟨records.scripts, records.watchScripts⟩

theorem Records.withRules (records : w.Records) (id : Nat) (shared : SharedSchema)
    (rules : Ruleset) : (w.withRules id shared rules).Records := by
  have noted := (records.withSchema id shared).addNotices
    (Ruleset.compileNotices (w.sessionAt id).options shared.schema)
  unfold Workspace.withRules
  exact ⟨noted.records.scripts, noted.records.watchScripts⟩

/-! ## The old tracker -/

theorem Orderly.setSchema_silences (orderly : w.Orderly []) (change : hooks.Change)
    (known : w.HasSession id) (other : shared.isSame (w.sessionAt id).shared = false) :
    (setSchema hooks id shared w).2.Silent (w.sessionAt id).tracker := by
  -- the session holds it until it is stopped, so nobody else has a hold of it
  have closed := orderly.shutting ⟨id, known, rfl⟩
  have schema : Changes [(w.sessionAt id).tracker] w (w.withSchema id shared) :=
    withSchema_changes known shared
  have idle : ((w.withSchema id shared).trackerAt (w.sessionAt id).tracker).isActive = false :=
    withSchema_idle
  rw [setSchema_apply, other]
  cases Ruleset.compile (w.sessionAt id).options shared.schema with
  | error error =>
      have noted := (addNotices_change [(w.sessionAt id).tracker] (w.withSchema id shared)
        (Ruleset.compileNotices (w.sessionAt id).options shared.schema))
      exact ((schema.orderly closed).change noted).silent idle
  | ok rules =>
      have ruled : Changes [(w.sessionAt id).tracker] _ (w.withRules id shared rules) :=
        withRules_changes known shared rules
      have taken := (takeTracker_goes change (ruled.orderly (schema.orderly closed)) id
        (w.sessionAt id).store shared.schema.fields).leads
      have since := ruled.trans taken
      exact (since.orderly (schema.orderly closed)).silent
        (since.later.idle _ (List.mem_singleton_self _) idle)

/-! ## The new tracker -/

theorem takeTracker_error {store : Nat} {fields : List Field} {fault : Fault}
    (failed : (takeTracker hooks id store fields w).1 = .error fault) :
    (createTracker hooks store fields w).1 = .error fault := by
  unfold takeTracker at failed
  rcases ran : createTracker hooks store fields w with ⟨other | t, created⟩
  · rw [bind_of_error ran] at failed
    cases failed
    rfl
  · rw [bind_of_ok ran, bind_of_ok (startTracker_apply t created)] at failed
    cases failed

theorem takeTracker_session (hooks : Hooks) (id store : Nat) (fields : List Field)
    (w : Workspace) :
    ∃ tracker, (takeTracker hooks id store fields w).2.sessionAt id =
      { (createTracker hooks store fields w).2.sessionAt id with tracker } := by
  unfold takeTracker
  rcases ran : createTracker hooks store fields w with ⟨fault | t, created⟩
  · rw [bind_of_error ran]
    exact ⟨(created.sessionAt id).tracker, rfl⟩
  · rw [bind_of_ok ran, bind_of_ok (startTracker_apply t created)]
    refine ⟨t, (sessionAt_putSession _ id _).trans ?_⟩
    split <;> rfl

theorem takeTracker_returns {store : Nat} {fields : List Field}
    (h : Yields (createTracker hooks store fields w) fun _ _ => True) :
    (takeTracker hooks id store fields w).1 = .ok true := by
  obtain ⟨t, created, ran, -⟩ := h
  rw [takeTracker, bind_of_ok ran, bind_of_ok (startTracker_apply t created)]
  rfl

/-! ## All that can happen -/

/-- What comes of making the new tracker: it tells of the values that it removes. -/
def telling (w : Workspace) (id : Nat) (shared : SharedSchema) (rules : Ruleset) (depth : Nat) :
    Except Fault Nat × Workspace :=
  createTracker (callbacks depth) (w.sessionAt id).store shared.schema.fields
    (w.withRules id shared rules)

/-- The ruleset does not compile. The session has the schema with the old ruleset. It counts as
    changed, so that asking again is of no use. -/
structure Halts (w : Workspace) (id : Nat) (shared : SharedSchema)
    (error : Pattern.PatternError) (run : Except Fault Bool × Workspace) : Prop where
  answer : run.1 = .error (.pattern error)
  session : run.2.sessionAt id = { w.sessionAt id with shared }
  values : ∀ s, (run.2.storeAt s).values = (w.storeAt s).values
  again : shared.key.isSome → ∀ hooks, setSchema hooks id shared run.2 = (.ok false, run.2)

/-- The ruleset compiles. If nobody fails who is told of removed values, the session has a tracker
    for the schema that listens to its store and nowhere else. If nobody else changes the session
    in the meantime either, it has the schema and the ruleset; so it is where functions of the host
    merely record. -/
structure Switches (w : Workspace) (id : Nat) (shared : SharedSchema) (rules : Ruleset)
    (depth : Nat) (run : Except Fault Bool × Workspace) : Prop where
  answered : ∀ answer, run.1 = .ok answer →
    answer = true ∧ run.2.HasTracker id (w.sessionAt id).store shared.schema.fields
  listening : ∀ answer, run.1 = .ok answer → ∀ s,
    (run.2.storeAt s).trackers.count (run.2.sessionAt id).tracker =
      if s = (w.sessionAt id).store then 1 else 0
  failed : ∀ fault, run.1 = .error fault → (w.telling id shared rules depth).1 = .error fault
  session : ∃ tracker,
    run.2.sessionAt id = { (w.telling id shared rules depth).2.sessionAt id with tracker }
  recorded : w.Records → w.trackers.length < depth → run.1 = .ok true ∧
    ∃ tracker, run.2.sessionAt id = { w.sessionAt id with shared, rules, tracker }

theorem setSchema_halts (hooks : Hooks) (other : shared.isSame (w.sessionAt id).shared = false)
    {error : Pattern.PatternError}
    (compiled : Ruleset.compile (w.sessionAt id).options shared.schema = .error error) :
    w.Halts id shared error (setSchema hooks id shared w) := by
  have run : setSchema hooks id shared w = (.error (.pattern error),
      (w.withSchema id shared).addNotices
        (Ruleset.compileNotices (w.sessionAt id).options shared.schema)) := by
    rw [setSchema_apply, other, compiled]
    rfl
  rw [run]
  refine ⟨rfl, sessionAt_withSchema, values_withSchema, fun keyed hooks => ?_⟩
  have session : ((w.withSchema id shared).addNotices (Ruleset.compileNotices
    (w.sessionAt id).options shared.schema)).sessionAt id = _ := sessionAt_withSchema
  rw [setSchema_apply, session, if_pos]
  simp [SharedSchema.isSame, keyed]

/-- Where functions of the host merely record, nobody fails when the new tracker is made. -/
theorem Orderly.telling_returns (orderly : w.Orderly []) (known : w.HasSession id)
    (records : w.Records) (shared : SharedSchema) (rules : Ruleset) {depth : Nat}
    (enough : w.trackers.length < depth) :
    Yields (w.telling id shared rules depth) fun _ _ => True := by
  have ruled : (w.withRules id shared rules).Orderly [] :=
    ((withSchema_changes known shared).trans (withRules_changes known shared rules)).orderly orderly
  refine createTracker_returns ruled (records.withRules id shared rules) ?_ _
  have fewer := Nat.le_trans (w.listening_withSchema id (w.sessionAt id).store shared)
    (orderly.trackers_le (w.sessionAt id).store)
  exact Nat.lt_of_le_of_lt fewer enough

theorem Orderly.setSchema_switches (orderly : w.Orderly []) (known : w.HasSession id)
    (other : shared.isSame (w.sessionAt id).shared = false)
    (compiled : Ruleset.compile (w.sessionAt id).options shared.schema = .ok rules)
    (depth : Nat) :
    w.Switches id shared rules depth (setSchema (callbacks depth) id shared w) := by
  have run : setSchema (callbacks depth) id shared w = takeTracker (callbacks depth) id
      (w.sessionAt id).store shared.schema.fields (w.withRules id shared rules) := by
    rw [setSchema_apply, other, compiled]
    rfl
  have ruled : (w.withRules id shared rules).Orderly [] :=
    ((withSchema_changes known shared).trans (withRules_changes known shared rules)).orderly orderly
  have goes := takeTracker_goes (callbacks_change depth) ruled id (w.sessionAt id).store
    shared.schema.fields
  rw [run]
  have session := takeTracker_session (callbacks depth) id (w.sessionAt id).store
    shared.schema.fields (w.withRules id shared rules)
  refine ⟨goes.answers, fun answer answered s => ?_, fun fault => takeTracker_error, session,
    fun records enough => ⟨?_, ?_⟩⟩
  · obtain ⟨-, has⟩ := goes.answers answer answered
    rw [(Changes.orderly goes.leads ruled).attached, attachment, has.active, has.store]
    simp [eq_comm]
  · exact takeTracker_returns (orderly.telling_returns known records shared rules enough)
  · have records := records.withRules id shared rules
    have kept := (createTracker_recorded records depth (w.sessionAt id).store
      shared.schema.fields).leads records
    obtain ⟨tracker, same⟩ := session
    refine ⟨tracker, same.trans ?_⟩
    rw [kept.sessionAt, sessionAt_withRules]

/-- How a session can come out of being given a schema, whatever functions of the host do in the
    midst of it. With the schema that it has nothing happens. With any other its old tracker hears
    of nothing any more, be there a new one or not. -/
theorem Reached.setSchema_outcome (reached : w.Reached) (known : w.HasSession id)
    (shared : SharedSchema) (depth : Nat) :
    let run := setSchema (callbacks depth) id shared w
    if shared.isSame (w.sessionAt id).shared then run = (.ok false, w)
    else run.2.Silent (w.sessionAt id).tracker ∧
      match Ruleset.compile (w.sessionAt id).options shared.schema with
      | .error error => w.Halts id shared error run
      | .ok rules => w.Switches id shared rules depth run := by
  intro run
  split
  next same => exact (setSchema_apply _ id shared w).trans (if_pos same)
  next other =>
    have other := Bool.not_eq_true _ ▸ other
    refine ⟨reached.orderly.setSchema_silences (callbacks_change depth) known other, ?_⟩
    cases compiled : Ruleset.compile (w.sessionAt id).options shared.schema with
    | error error => exact setSchema_halts _ other compiled
    | ok rules => exact reached.orderly.setSchema_switches known other compiled depth

/-! ## A pet and its tag, for instance -/

/-- A form about a tag, with a pattern that repeats too often. -/
def tagPatterned : SharedSchema where
  key := some "tag"
  schema :=
    { title := "Tag"
      body := .flat
        [{ name := "tag", rules := { pattern := some "a\x7b99999999999999999999\x7d" } }] }

theorem petNamed_reached : petNamed.Reached := by
  have start : Blank { schemas := [("pet", petForm)] } :=
    ⟨fun _ => rfl, rfl, rfl, rfl, rfl, rfl, rfl⟩
  exact (start.reached.act (.openSession "pet" "s" false [])).act
    (.setMany [("petName", .str "Rex"), ("pet", .str "yes")])

theorem petNamed_hasSession : petNamed.HasSession 0 := by
  show 0 ∈ petNamed.sessions.map (·.1)
  decide +kernel

/-- Nobody can use the form about the tag, and the form about the pet does not work any more. -/
theorem petNamed_setSchema_outcome :
    petNamed.Reached ∧ petNamed.HasSession 0 ∧
      (let run := setSchema (callbacks petNamed.depthLimit) 0 tagPatterned petNamed
      if tagPatterned.isSame (petNamed.sessionAt 0).shared then run = (.ok false, petNamed)
      else run.2.Silent (petNamed.sessionAt 0).tracker ∧
        match Ruleset.compile (petNamed.sessionAt 0).options tagPatterned.schema with
        | .error error => petNamed.Halts 0 tagPatterned error run
        | .ok rules => petNamed.Switches 0 tagPatterned rules petNamed.depthLimit run) :=
  ⟨petNamed_reached, petNamed_hasSession,
    petNamed_reached.setSchema_outcome petNamed_hasSession tagPatterned _⟩

/-- The schema, the ruleset and the tracker of a session are those of another schema, or it failed
    and the session and its store are as they were, and its tracker still listens. -/
def AllOrNothing (w : Workspace) (id : Nat) (shared : SharedSchema)
    (run : Except Fault Bool × Workspace) : Prop :=
  match run.1 with
  | .ok _ => (run.2.sessionAt id).shared = shared ∧
      Ruleset.compile (w.sessionAt id).options shared.schema = .ok (run.2.sessionAt id).rules ∧
      run.2.HasTracker id (w.sessionAt id).store shared.schema.fields
  | .error _ => run.2.sessionAt id = w.sessionAt id ∧
      (run.2.storeAt (w.sessionAt id).store).values =
        (w.storeAt (w.sessionAt id).store).values ∧
      (run.2.trackerAt (w.sessionAt id).tracker).isActive = true

theorem petNamed_neither :
    petNamed.Reached ∧ petNamed.HasSession 0 ∧
      ¬petNamed.AllOrNothing 0 tagPatterned
        (setSchema (callbacks petNamed.depthLimit) 0 tagPatterned petNamed) := by
  refine ⟨petNamed_reached, petNamed_hasSession, fun whole => ?_⟩
  have failed : (setSchema (callbacks petNamed.depthLimit) 0 tagPatterned petNamed).1.isOk =
      false := by decide +kernel
  have silent : ((setSchema (callbacks petNamed.depthLimit) 0 tagPatterned petNamed).2.trackerAt
      (petNamed.sessionAt 0).tracker).isActive = false := by decide +kernel
  unfold AllOrNothing at whole
  split at whole
  next same =>
    rw [same] at failed
    cases failed
  next =>
    rw [silent] at whole
    cases whole.2.2

end Workspace

end Formwork
