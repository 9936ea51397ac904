import Formwork.Proofs.Host.Sessions

/-! # What hosts do

Each action of a host, with all that functions of the host do while they are called, is a
sequence of changes, whether it succeeds or fails. So order is kept all the time.
-/

namespace Formwork

open Workspace Effect

namespace Workspace

variable {hooks : Hooks} {shut : List Nat} {w : Workspace}

/-! ## Listening -/

theorem subscribe_goes (subscription listener : String) (script : List Action) (times : Nat) :
    Goes (.orderly shut) w (subscribe subscription listener script times w) Any := by
  have listening : Change shut w (w.updateStore w.store (·.subscribe (.host listener))) :=
    .store w.store _ (Store.trackers_subscribe_host _ listener)
  have scripted : Change shut (w.updateStore w.store (·.subscribe (.host listener)))
      { w.updateStore w.store (·.subscribe (.host listener)) with
        scripts := withScript w.scripts listener script times } :=
    .elsewhere _ rfl rfl rfl rfl rfl rfl rfl
  exact .changing ((listening.changes.then_ scripted).then_ (.subscription subscription
    { store := w.store, listener := .host listener } ⟨listener, rfl⟩)) trivial

theorem unsubscribe_goes (orderly : w.Orderly shut) (name : String) :
    Goes (.orderly shut) w (unsubscribe name w) Any := by
  unfold unsubscribe
  rw [get_bind]
  refine (orFault_goes _ _).bind fun subscription between _ found => ?_
  obtain ⟨found, rfl⟩ := found
  obtain ⟨listener, host⟩ := orderly.hosts name subscription found
  split
  · rw [modify_bind]
    have ceased : Change shut between
        (between.updateStore subscription.store (·.unsubscribe subscription.listener)) := by
      refine .store _ _ ?_
      rw [host, Store.trackers_unsubscribe_host]
    exact .after ceased.changes
      (.changing (Change.subscription name { subscription with isClosed := true }
        ⟨listener, host⟩).changes trivial)
  · exact .pure trivial

theorem watch_goes (t : Nat) (listener : String) (script : List Action) (times : Nat) :
    Goes (.orderly shut) w (watch t listener script times w) Any := by
  have watched : Change shut w (w.updateTracker t (·.watch listener)) :=
    .tracker t _ rfl rfl rfl fun formed => ⟨formed.distinct, formed.fits⟩
  exact .changing (watched.changes.then_ (.elsewhere _ rfl rfl rfl rfl rfl rfl rfl)) trivial

theorem unwatch_goes (listener : String) :
    Goes (.orderly shut) w (unwatch listener w) Any := by
  unfold unwatch
  rw [get_bind]
  refine (orFault_goes _ _).bind fun t _ _ _ => ?_
  exact .changing (Change.tracker t _ rfl rfl rfl fun formed =>
    ⟨formed.distinct, formed.fits⟩).changes trivial

/-! ## Batches -/

theorem beginBatch_goes : Goes (.orderly shut) w (beginBatch w) Any := by
  have opened : Change shut w (w.updateStore w.store (·.openBatch)) := .store w.store _ rfl
  exact .changing (opened.changes.then_ (.elsewhere _ rfl rfl rfl rfl rfl rfl rfl)) trivial

theorem endBatch_goes (change : hooks.Change) (orderly : w.Orderly shut) :
    Goes (.orderly shut) w (endBatch hooks w) Any := by
  unfold endBatch
  rw [get_bind]
  cases w.batches with
  | nil => exact .fail _
  | cons store rest =>
      have left : Change shut w { w with batches := rest } :=
        .elsewhere _ rfl rfl rfl rfl rfl rfl rfl
      exact .after left.changes (closeBatch_goes (change shut) (orderly.change left) store)

/-! ## Validation -/

theorem conclude_goes (found : Findings) : Goes (.orderly shut) w (conclude found w) Any := by
  unfold conclude
  rw [modify_bind, modify_bind]
  have noted := addNotices_change shut w found.notices
  exact ⟨noted.changes.then_ (.elsewhere _ rfl rfl rfl rfl rfl rfl rfl), fun _ _ => trivial⟩

theorem validateLocal_goes (session : Session) :
    Goes (.orderly shut) w (validateLocal session w) Any := by
  unfold validateLocal
  rw [get_bind]
  exact conclude_goes _

theorem validate_goes (session : Session) :
    Goes (.orderly shut) w (validate session w) Any := by
  unfold validate
  rw [get_bind]
  exact conclude_goes _

theorem submit_goes (session : Session) : Goes (.orderly shut) w (submit session w) Any := by
  unfold submit
  refine (validate_goes session).bind fun outcome between _ _ => ?_
  split
  · exact .pure trivial
  · exact ⟨(addNotices_change shut between _).changes, fun _ _ => trivial⟩

/-! ## Steps -/

theorem elsewhere_goes (f : Workspace → Workspace) (stores : (f w).stores = w.stores)
    (trackers : (f w).trackers = w.trackers) (sessions : (f w).sessions = w.sessions)
    (tracker : (f w).tracker = w.tracker) (session : (f w).session = w.session)
    (sessionNames : (f w).sessionNames = w.sessionNames)
    (subscriptions : (f w).subscriptions = w.subscriptions) :
    Goes (.orderly shut) w ((modify f : Effect Unit) w) Any :=
  .changing (Change.elsewhere (f w) stores trackers sessions tracker session sessionNames
    subscriptions).changes trivial

theorem addNotices_goes (notices : List Notice) :
    Goes (.orderly shut) w ((modify (·.addNotices notices) : Effect Unit) w) Any :=
  .changing (addNotices_change shut w notices).changes trivial

theorem currentRun_goes : Goes (.orderly shut) w (currentRun w) Any := by
  unfold currentRun
  rw [get_bind]
  exact (orFault_goes _ _).any

theorem handIn_goes (submission : Submission) (data : Entries Value) :
    Goes (.orderly shut) w (handIn submission data w) Any := by
  cases submission with
  | ignored => exact .pure trivial
  | accepted => exact elsewhere_goes _ rfl rfl rfl rfl rfl rfl rfl
  | failing fault =>
      exact (elsewhere_goes _ rfl rfl rfl rfl rfl rfl rfl).bind fun _ _ _ _ => .fail _

theorem advance_goes (data : Entries Value) : Goes (.orderly shut) w (advance data w) Any := by
  unfold advance
  refine currentRun_goes.bind fun run _ _ _ => ?_
  refine (orFault_goes _ _).bind fun sequence _ _ _ => ?_
  refine (elsewhere_goes _ rfl rfl rfl rfl rfl rfl rfl).bind fun _ _ _ _ => ?_
  refine (addNotices_goes _).bind fun _ _ _ _ => ?_
  split
  · exact (handIn_goes _ _).answering _
  · exact .pure trivial

theorem retreat_goes : Goes (.orderly shut) w (retreat w) Any := by
  unfold retreat
  refine currentRun_goes.bind fun run _ _ _ => ?_
  refine (orFault_goes _ _).bind fun sequence _ _ _ => ?_
  refine (elsewhere_goes _ rfl rfl rfl rfl rfl rfl rfl).bind fun _ _ _ _ => ?_
  exact addNotices_goes _

theorem openStep_goes (change : hooks.Change) (orderly : w.Orderly shut) :
    Goes (.orderly shut) w (openStep hooks w) (Owns shut) := by
  unfold openStep
  refine currentRun_goes.bind fun run between leads _ => ?_
  rw [get_bind]
  exact openSession_goes change (Changes.orderly leads orderly) _ _ _

theorem submitStep_goes (session : Session) :
    Goes (.orderly shut) w (submitStep session w) Any := by
  unfold submitStep
  refine (submit_goes session).bind fun answer _ _ _ => ?_
  obtain ⟨outcome, payload⟩ := answer
  cases payload with
  | none => exact .pure trivial
  | some data => exact (advance_goes data).discard.answering _

theorem beginRun_goes (key : String) (submission : Submission) (start : Schema → StepSequence) :
    Goes (.orderly shut) w (beginRun key submission start w) Any := by
  unfold beginRun
  refine (sharedSchema_goes key).bind fun _ _ _ _ => ?_
  exact elsewhere_goes _ rfl rfl rfl rfl rfl rfl rfl

theorem stateOrCurrent_goes (document : Option Value) :
    Goes (.orderly shut) w (stateOrCurrent document w) Any := by
  cases document with
  | none => exact currentRun_goes.answering _
  | some document =>
      rw [stateOrCurrent, get_bind]
      cases StepState.ofValue w.now document with
      | read state => exact .pure trivial
      | refused issues => exact .fail _

theorem sign_goes : Goes (.orderly shut) w (sign w) Any := by
  unfold sign
  rw [get_bind]
  refine currentRun_goes.bind fun run _ _ _ => ?_
  exact (elsewhere_goes _ rfl rfl rfl rfl rfl rfl rfl).answering _

theorem verifyLater_goes (later : Binary64) (limit : Option Value) :
    Goes (.orderly shut) w (verifyLater later limit w) Any := by
  unfold verifyLater
  refine (elsewhere_goes _ rfl rfl rfl rfl rfl rfl rfl).bind fun _ between _ _ => ?_
  rw [get_bind]
  cases between.token with
  | none => exact .pure trivial
  | some token => exact (addNotices_goes _).answering _

/-! ## Trackers and sessions in use -/

theorem track_goes (change : hooks.Change) (orderly : w.Orderly shut) (key : String) :
    Goes (.orderly shut) w (perform hooks (.track key) w) Any := by
  rw [perform]
  refine (sharedSchema_goes key).bind fun shared between leads _ => ?_
  rw [get_bind]
  refine (createTracker_goes change (Changes.orderly leads orderly) _ _).bind
    fun t created _ made => ?_
  exact .after (Change.useTracker t made.allowed made.known made.free).changes (.pure trivial)

theorem start_goes (orderly : w.Orderly shut) :
    Goes (.orderly shut) w (perform hooks .start w) Any := by
  rw [perform]
  refine trackerInUse_goes.bind fun t between _ found => ?_
  obtain ⟨rfl, used⟩ := found
  have allowed : t ∉ shut := fun member => (orderly.shut t member).2 used
  refine (startTracker_goes allowed (orderly.used t used).1).bind fun _ _ _ _ => ?_
  rw [get_bind]
  exact trackerInUse_goes.answering _

theorem stop_goes : Goes (.orderly shut) w (perform hooks .stop w) Any := by
  rw [perform]
  refine trackerInUse_goes.bind fun t _ _ _ => (stopTracker_goes t).bind fun _ _ _ _ => ?_
  rw [get_bind]
  exact trackerInUse_goes.answering _

theorem openSession_act_goes (change : hooks.Change) (orderly : w.Orderly shut)
    (key name : String) (external : Bool) (initial : Entries Value) :
    Goes (.orderly shut) w (perform hooks (.openSession key name external initial) w) Any := by
  rw [perform]
  refine (sharedSchema_goes key).bind fun shared between leads _ => ?_
  rw [get_bind]
  have orderly := Changes.orderly leads orderly
  cases external with
  | true =>
      exact (joinSession_goes change orderly _ _ _ _).bind fun session _ _ owns =>
        (adoptSession_goes name owns).answering _
  | false =>
      exact (openSession_goes change orderly _ _ _).bind fun session _ _ owns =>
        (adoptSession_goes name owns).answering _

theorem use_goes (orderly : w.Orderly shut) (name : String) :
    Goes (.orderly shut) w (perform hooks (.use name) w) Any := by
  rw [perform]
  rw [get_bind]
  refine (orFault_goes _ _).bind fun id between _ found => ?_
  obtain ⟨named, rfl⟩ := found
  exact (useSession_goes (orderly.named name id named)).answering _

theorem setSchema_act_goes (change : hooks.Change) (orderly : w.Orderly shut) (key : String)
    (copied : Bool) : Goes (.orderly shut) w (perform hooks (.setSchema key copied) w) Any := by
  rw [perform]
  refine (sharedSchema_goes key).bind fun shared between leads _ => ?_
  have orderly := Changes.orderly leads orderly
  refine (sessionInUse_goes orderly).bind fun id used _ found => ?_
  obtain ⟨rfl, known⟩ := found
  exact (setSchema_goes change orderly known _).answering _

/-! ## All actions -/

theorem perform_goes (change : hooks.Change) (orderly : w.Orderly shut) (action : Action) :
    Goes (.orderly shut) w (perform hooks action w) Any := by
  have take := change shut
  -- what is done with the session in use
  have using_ {α : Type} {next : Session → Effect α}
      (rest : ∀ session, Goes (.orderly shut) w (next session w) Any) :
      Goes (.orderly shut) w ((currentSession >>= next) w) Any :=
    (currentSession_goes orderly).bind fun session _ _ found => found.1 ▸ rest session
  cases action
  case track key => exact track_goes change orderly key
  case start => exact start_goes orderly
  case stop => exact stop_goes
  case openSession key name external initial =>
    exact openSession_act_goes change orderly key name external initial
  case use name => exact use_goes orderly name
  case setSchema key copied => exact setSchema_act_goes change orderly key copied
  all_goals rw [perform]
  case get => exact .pure trivial
  case has => exact .pure trivial
  case set =>
    rw [get_bind]
    exact (setValues_goes take orderly _ _).answering _
  case setMany =>
    rw [get_bind]
    exact (setValues_goes take orderly _ _).answering _
  case clear =>
    rw [get_bind]
    exact (clear_goes take orderly _ _ _).answering _
  case publish =>
    rw [get_bind]
    exact (record_goes take orderly _ _).answering _
  case openBatch => exact beginBatch_goes.answering _
  case closeBatch => exact (endBatch_goes change orderly).answering _
  case subscribe => exact (subscribe_goes _ _ _ _).answering _
  case unsubscribe => exact (unsubscribe_goes orderly _).answering _
  case fail => exact .fail _
  case watch => exact trackerInUse_goes.bind fun t _ _ _ => (watch_goes t _ _ _).answering _
  case unwatch => exact (unwatch_goes _).answering _
  case isVisible => exact trackerInUse_goes.answering _
  case sessionSet =>
    exact using_ fun session => (setValues_goes take orderly _ _).answering _
  case sessionSetMany =>
    exact using_ fun session => (setValues_goes take orderly _ _).answering _
  case sessionWatch => exact using_ fun session => (watch_goes _ _ _ _).answering _
  case validateLocal => exact using_ fun session => (validateLocal_goes session).answering _
  case validate => exact using_ fun session => (validate_goes session).answering _
  case payload => exact using_ fun session => .pure trivial
  case submit => exact using_ fun session => (submit_goes session).answering _
  case describe => exact using_ fun session => .pure trivial
  case close => exact using_ fun session => (stopTracker_goes _).answering _
  case begin =>
    rw [get_bind]
    exact (beginRun_goes _ _ _).answering _
  case advance => exact (advance_goes _).answering _
  case retreat => exact retreat_goes.answering _
  case openStep =>
    exact (openStep_goes change orderly).bind fun session _ _ owns =>
      (adoptSession_goes _ owns).answering _
  case submitStep => exact using_ fun session => (submitStep_goes session).answering _
  case snapshot => exact currentRun_goes.answering _
  case restore =>
    exact (stateOrCurrent_goes _).bind fun _ _ _ _ => (beginRun_goes _ _ _).answering _
  case sign => exact sign_goes.answering _
  case resume =>
    refine (verifyLater_goes _ _).bind fun state _ _ _ => ?_
    cases state with
    | none => exact .pure trivial
    | some state => exact (beginRun_goes _ _ _).answering _

/-! ## Callbacks -/

theorem performAll_goes (change : hooks.Change) (orderly : w.Orderly shut)
    (actions : List Action) : Goes (.orderly shut) w (performAll hooks actions w) Any := by
  induction actions generalizing w with
  | nil => exact .pure trivial
  | cons action rest ih =>
      exact (perform_goes change orderly action).discard.bind fun _ _ leads _ =>
        ih (Changes.orderly leads orderly)

theorem takeActions_goes (listener : String) :
    Goes (.orderly shut) w (takeActions listener w) Any := by
  unfold takeActions
  rw [get_bind]
  exact (elsewhere_goes _ rfl rfl rfl rfl rfl rfl rfl).answering _

theorem takeWatchActions_goes (listener : String) :
    Goes (.orderly shut) w (takeWatchActions listener w) Any := by
  unfold takeWatchActions
  rw [get_bind]
  exact (elsewhere_goes _ rfl rfl rfl rfl rfl rfl rfl).answering _

theorem callbacks_change (depth : Nat) : (callbacks depth).Change := by
  induction depth with
  | zero => exact fun shut => ⟨fun _ _ _ _ => .fail _, fun _ _ _ => .fail _⟩
  | succ depth ih =>
      refine fun shut => ⟨fun {w} orderly listener names values => ?_,
        fun {w} orderly name map => ?_⟩
      · cases listener with
        | tracker id => exact react_goes (ih shut) orderly id names
        | host name =>
            have told : Change shut w (w.addEvent (.changed name names values)) :=
              .elsewhere _ rfl rfl rfl rfl rfl rfl rfl
            refine .after told.changes ((takeActions_goes name).bind fun actions _ leads _ => ?_)
            exact performAll_goes ih (Changes.orderly leads (orderly.change told)) actions
      · have told : Change shut w (w.addEvent (.shown name map)) :=
          .elsewhere _ rfl rfl rfl rfl rfl rfl rfl
        refine .after told.changes ((takeWatchActions_goes name).bind fun actions _ leads _ => ?_)
        exact performAll_goes ih (Changes.orderly leads (orderly.change told)) actions

theorem act_goes (orderly : w.Orderly shut) (action : Action) :
    Goes (.orderly shut) w (act action w) Any := by
  unfold act
  rw [get_bind]
  exact perform_goes (callbacks_change _) orderly action

/-! ## Workspaces that can be reached -/

/-- Nothing has been opened, and nobody listens to anything. -/
structure Blank (w : Workspace) : Prop where
  listening : ∀ s, (w.storeAt s).trackers = []
  trackers : w.trackers = []
  sessions : w.sessions = []
  tracker : w.tracker = none
  session : w.session = none
  sessionNames : w.sessionNames = []
  subscriptions : w.subscriptions = []

theorem Blank.orderly (blank : w.Blank) : w.Orderly [] := by
  have idle (t : Nat) : w.trackerAt t = default := by rw [trackerAt, blank.trackers]; rfl
  have none (id : Nat) : ¬w.HasSession id := by simp [HasSession, blank.sessions]
  refine ⟨fun s t => ?_, fun t => ?_, fun t => ?_, ?_, fun t held => ?_, ?_, ?_, ?_⟩
  · rw [blank.listening, attachment, idle]
    rfl
  · rw [idle]
    exact ⟨List.nodup_nil, by decide⟩
  · exact fun member => absurd member List.not_mem_nil
  · simp [blank.tracker]
  · obtain ⟨id, known, -⟩ := held
    exact absurd known (none id)
  · simp [blank.session]
  · simp [blank.sessionNames]
  · simp [blank.subscriptions]

/-- What can become of a workspace that was blank, also in the midst of an action. -/
def Reached (w : Workspace) : Prop := ∃ start : Workspace, start.Blank ∧ Changes [] start w

theorem Blank.reached (blank : w.Blank) : w.Reached := ⟨w, blank, .refl⟩

theorem Reached.act (reached : w.Reached) (action : Action) : (act action w).2.Reached := by
  obtain ⟨start, blank, changes⟩ := reached
  exact ⟨start, blank, changes.trans (act_goes (changes.orderly blank.orderly) action).leads⟩

theorem Reached.orderly (reached : w.Reached) : w.Orderly [] := by
  obtain ⟨start, blank, changes⟩ := reached
  exact changes.orderly blank.orderly

end Workspace

end Formwork
