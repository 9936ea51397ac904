import Formwork.Proofs.Store.Subscribers
import Formwork.Proofs.Form.Agreement
import Formwork.Proofs.Workspace.Settling

/-! # What listeners of a tracker hear of an operation

An operation may show and hide fields several times over before it is done. The listeners of
the tracker hear of it at most once, after all hidden fields have lost their values.
-/

namespace Formwork

namespace Effect

theorem ensuring_congr {α : Type} {first second : Effect α} {w : Workspace}
    (h : first w = second w) (after : Workspace → Workspace) :
    first.ensuring after w = second.ensuring after w := by
  simp only [ensuring, h]

end Effect

/-- The map of a tracker is one for its conditions, as the tracker itself makes it. -/
structure Tracker.Formed (tracker : Tracker) : Prop where
  distinct : tracker.conditions.names.Nodup
  fits : tracker.map.Fits tracker.conditions

instance (tracker : Tracker) : Decidable tracker.Formed :=
  decidable_of_iff (tracker.conditions.names.Nodup ∧ tracker.map.Fits tracker.conditions)
    ⟨fun h => ⟨h.1, h.2⟩, fun h => ⟨h.distinct, h.fits⟩⟩

theorem Tracker.Serves.formed {fields : List Field} {tracker : Tracker}
    (serves : tracker.Serves fields) : tracker.Formed := by
  refine ⟨?_, ?_⟩ <;> rw [serves.conditions]
  · exact Conditions.nodup_ofFields fields
  · exact serves.fits

namespace Form

variable {form : Form}

theorem hear_formed (formed : form.tracker.Formed) (names : List String) :
    (form.hear names).tracker.Formed := by
  unfold hear
  split
  · exact formed
  · exact ⟨formed.distinct, Cycle.settle_fits formed.distinct formed.fits⟩

theorem cycle_absent (formed : form.tracker.Formed) {affected : List String}
    (busy : affected ≠ []) {name : String}
    (hidden : (form.cycle affected).tracker.map.get? name = some false) :
    (form.cycle affected).store.values.get? name = none := by
  have settled : (form.cycle affected).store.values =
      (form.tracker.cycle affected form.store.values).values :=
    (cycle_values form affected).trans
      (Cycle.settle_values formed.distinct formed.fits rfl).1.symm
  rw [settled]
  exact Cycle.settle_absent formed.distinct formed.fits busy name hidden

theorem told_eq_ite (formed : form.tracker.Formed) (names : List String) :
    form.told names = if (form.hear names).tracker.map = form.tracker.map then []
      else form.tracker.listeners.map fun listener =>
        (listener, (form.hear names).tracker.map) := by
  have known : (form.hear names).tracker.map.names = form.tracker.map.names := by
    unfold hear
    split
    · rfl
    · exact Cycle.names_settle formed.fits formed.distinct
  have same := Visibility.flipped_eq_nil_iff known (known ▸ formed.fits.distinct)
  rw [told_eq formed.fits.distinct, tells]
  simp only [List.isEmpty_iff, same]

end Form

namespace Workspace

variable {w w' : Workspace} {s t : Nat} {actions : List Action}

/-- What listeners do when they are called, where a listener of a tracker fails unless the map
    and the workspace are acceptable at that moment. -/
def guarded (accepts : Visibility → Workspace → Bool) : Nat → Hooks
  | 0 => callbacks 0
  | depth + 1 =>
      { changed := fun listener names values => match listener with
          | .tracker id => react (guarded accepts depth) id names
          | .host name => (callbacks (depth + 1)).changed (.host name) names values
        shown := fun name map => do
          if accepts map (← get) then (callbacks (depth + 1)).shown name map
          else throw .tooDeep }

/-- No field that the map hides has a value in the store in use. -/
def clean (map : Visibility) (w : Workspace) : Bool :=
  map.hidden.all fun name => !(w.storeAt w.store).values.has name

variable {accepts : Visibility → Workspace → Bool} (depth : Nat)

theorem guarded_host (name : String) (names : List String) (values : Entries Value) :
    (guarded accepts (depth + 1)).changed (.host name) names values =
      (callbacks (depth + 1)).changed (.host name) names values := by
  rw [guarded]

theorem guarded_tracker (id : Nat) (names : List String) (values : Entries Value) :
    (guarded accepts (depth + 1)).changed (.tracker id) names values =
      react (guarded accepts depth) id names := by
  rw [guarded]

theorem callbacks_tracker (id : Nat) (names : List String) (values : Entries Value) :
    (callbacks (depth + 1)).changed (.tracker id) names values =
      react (callbacks depth) id names := by
  rw [callbacks]

theorem guarded_shown (name : String) (map : Visibility) :
    (guarded accepts (depth + 1)).shown name map = (do
      if accepts map (← get) then (callbacks (depth + 1)).shown name map
      else throw .tooDeep) := by
  rw [guarded]

theorem callWatchers_cons {hooks : Hooks} {map : Visibility} {listener : String}
    {rest : List String} (ran : hooks.shown listener map w = (.ok (), w')) :
    callWatchers hooks map (listener :: rest) w = callWatchers hooks map rest w' := by
  rw [callWatchers, Effect.bind_of_ok ran]

/-- Calling listeners in two ways comes to the same where each call does, as long as something
    holds that each call keeps. -/
theorem callListeners_congr (keeps : Workspace → Prop) {hooks others : Hooks}
    {names : List String} {listeners : List Listener}
    (agree : ∀ listener ∈ listeners, ∀ values w, keeps w →
      hooks.changed listener names values w = others.changed listener names values w)
    (kept : ∀ listener ∈ listeners, ∀ values w, keeps w →
      Effect.Yields (others.changed listener names values w) fun _ after => keeps after)
    (start : keeps w) :
    callListeners hooks s names listeners w = callListeners others s names listeners w := by
  induction listeners generalizing w with
  | nil => rfl
  | cons listener rest ih =>
      obtain ⟨_, after, ran, holds⟩ := kept _ List.mem_cons_self (w.storeAt s).values w start
      rw [callListeners_cons, callListeners_cons, Effect.bind_of_ok ran,
        Effect.bind_of_ok ((agree _ List.mem_cons_self _ w start).trans ran)]
      exact ih (fun other member => agree other (List.mem_cons_of_mem _ member))
        (fun other member => kept other (List.mem_cons_of_mem _ member)) holds

theorem callListeners_guarded_deaf (records : w.Records) (names : List String)
    {listeners : List Listener} (deaf : ∀ listener ∈ listeners, w.IsDeaf listener) :
    callListeners (guarded accepts (depth + 1)) s names listeners w =
      callListeners (callbacks (depth + 1)) s names listeners w := by
  refine callListeners_congr (fun w => w.Records ∧ ∀ listener ∈ listeners, w.IsDeaf listener)
    ?_ ?_ ⟨records, deaf⟩
  · rintro listener member values w ⟨-, deaf⟩
    cases listener with
    | host name => rw [guarded_host]
    | tracker id =>
        have announcing : (w.trackerAt id).isAnnouncing = true := deaf _ member
        have nothing : (w.trackerAt id).reactsTo names = [] := if_pos announcing
        rw [guarded_tracker, callbacks_tracker, react_nothing _ nothing, react_nothing _ nothing]
  · rintro listener member values w ⟨records, deaf⟩
    refine (changed_deaf depth records (deaf _ member) names values).mono fun _ after told => ?_
    exact ⟨told.records, fun other listed => (deaf other listed).of_notes told.toNotes⟩

theorem record_guarded_deaf (records : w.Records) (names : List String)
    (deaf : ∀ id ∈ (w.storeAt s).trackers, (w.trackerAt id).isAnnouncing = true) :
    record (guarded accepts (depth + 1)) s names w =
      record (callbacks (depth + 1)) s names w := by
  rw [record_apply, record_apply, notify_apply, notify_apply, storeAt_updateStore]
  split
  · rfl
  · have still := (FormBecomes.refl (s := s) (t := 0) records).updateStore
      fun _ => ((w.storeAt s).record names).2
    refine callListeners_guarded_deaf depth still.sameButForm.records _ ?_
    have listening := (Store.record_keeps (w.storeAt s) names).2.1
    exact isDeaf_of_trackers fun id listed => deaf id (listening ▸ listed)

theorem runCycle_guarded (alone : w.Alone s t) (affected : List String) :
    runCycle (guarded accepts (depth + 1)) t affected w =
      runCycle (callbacks (depth + 1)) t affected w := by
  have passed := afterPasses_form (s := s) (t := t) alone.records affected
  rw [runCycle_apply _ alone.follows, runCycle_apply _ alone.follows]
  split
  · rfl
  · refine Effect.bind_congr (Effect.ensuring_congr ?_ _) _
    exact record_guarded_deaf depth (passed.updateTracker _).sameButForm.records _
      (alone.raised_deaf affected)

theorem callWatchers_guarded (records : w.Records) (map : Visibility)
    (accepted : ∀ after, w.Notes after → accepts map after = true) (listeners : List String) :
    callWatchers (guarded accepts (depth + 1)) map listeners w =
      callWatchers (callbacks (depth + 1)) map listeners w := by
  induction listeners generalizing w with
  | nil => simp only [callWatchers]
  | cons listener rest ih =>
      obtain ⟨_, after, ran, told⟩ := shown_host depth records listener map
      have same : (guarded accepts (depth + 1)).shown listener map w = (.ok (), after) := by
        rw [guarded_shown, Effect.get_bind, if_pos (accepted w (.refl records)), ran]
      rw [callWatchers_cons same, callWatchers_cons ran]
      exact ih told.records fun later noted => accepted later (told.toNotes.trans noted)

theorem tellWatchers_guarded (records : w.Records) (id : Nat)
    (answer : Visibility × List String)
    (accepted : ∀ after, w.Notes after → accepts answer.1 after = true) :
    tellWatchers (guarded accepts (depth + 1)) id answer w =
      tellWatchers (callbacks (depth + 1)) id answer w := by
  unfold tellWatchers
  split
  · have noted := records.addNotices [.visibilityChanged (Names.sorted answer.2)]
    exact callWatchers_guarded depth noted.records _
      (fun after later => accepted after (noted.trans later)) _
  · rfl

/-- A tracker that hears of a change calls its listeners only when a check holds, if the check
    holds after the cycle. -/
theorem react_guarded (alone : w.Alone s t) (names : List String)
    (accepted : (w.trackerAt t).reactsTo names ≠ [] → ∀ after,
      w.FormBecomes s t ((w.formAt s t).hear names) after →
        accepts ((w.formAt s t).hear names).tracker.map after = true) :
    react (guarded accepts (depth + 1)) t names w =
      react (callbacks (depth + 1)) t names w := by
  rw [react_apply, react_apply]
  split
  · rfl
  next busy =>
    obtain ⟨answer, after, ran, rfl, cycled⟩ := runCycle_form depth alone _
    have some : (w.trackerAt t).reactsTo names ≠ [] := by simpa using busy
    have hear : (w.formAt s t).hear names =
        (w.formAt s t).cycle ((w.trackerAt t).reactsTo names) := Form.hear_busy some
    rw [Effect.bind_of_ok ran, Effect.bind_of_ok ((runCycle_guarded depth alone _).trans ran)]
    refine tellWatchers_guarded depth cycled.sameButForm.records t _ fun later noted => ?_
    rw [hear] at accepted
    exact accepted some later (cycled.notes noted)

/-- A tracker alone listens to the store in use, with a map for its conditions. -/
structure Follows (w : Workspace) (s t : Nat) : Prop extends Listens w s t where
  used : w.store = s
  formed : (w.trackerAt t).Formed

theorem Follows.becomes {form : Form} (h : w.Follows s t) (h' : w.FormBecomes s t form w')
    (steady : (w.formAt s t).Steady form) (formed : form.tracker.Formed) : w'.Follows s t where
  toListens := h.toListens.becomes h' steady
  used := h'.sameButForm.store.trans h.used
  formed := by
    rw [h'.trackerAt]
    exact formed

theorem Follows.clean_hear (h : w.Follows s t) {names : List String}
    (busy : (w.trackerAt t).reactsTo names ≠ [])
    (h' : w.FormBecomes s t ((w.formAt s t).hear names) w') :
    clean ((w.formAt s t).hear names).tracker.map w' = true := by
  have formed : ((w.formAt s t).hear names).tracker.Formed := Form.hear_formed h.formed names
  have hear : (w.formAt s t).hear names =
      (w.formAt s t).cycle ((w.trackerAt t).reactsTo names) := Form.hear_busy busy
  unfold clean
  rw [List.all_eq_true, h'.sameButForm.store, h.used, h'.storeAt]
  intro name hidden
  rw [Visibility.mem_hidden formed.fits.distinct] at hidden
  rw [hear] at hidden ⊢
  rw [Entries.has, Form.cycle_absent h.formed busy hidden]
  rfl

theorem notify_guarded (follows : w.Follows s t) (names : List String) :
    notify (guarded clean (depth + 2)) s names w = notify (callbacks (depth + 2)) s names w := by
  rw [notify_apply, notify_apply]
  split
  · rfl
  have only : ∀ id, .tracker id ∈ (w.storeAt s).listeners → id = t := fun id member =>
    follows.only id (Store.mem_trackers member)
  refine callListeners_congr (fun later => later.Follows s t) ?_ ?_ follows
  · intro listener member values later follows
    cases listener with
    | host name => rw [guarded_host]
    | tracker id =>
        cases only id member
        rw [guarded_tracker, callbacks_tracker]
        exact react_guarded depth follows.toAlone names fun busy _ heard =>
          follows.clean_hear busy heard
  · intro listener member values later follows
    cases listener with
    | host name =>
        refine (changed_host (depth + 1) follows.records name names values).mono
          fun _ after told => ?_
        exact follows.becomes ((FormBecomes.refl follows.records).notes told.toNotes) (.refl _)
          follows.formed
    | tracker id =>
        cases only id member
        rw [callbacks_tracker]
        exact (react_speaks depth follows.toAlone names).mono fun _ after heard =>
          follows.becomes heard.toFormBecomes (Form.hear_steady _ _)
            (Form.hear_formed follows.formed _)

/-- Listeners of the tracker hear of an operation once if the map has become another, and not
    at all otherwise; what they hear of is the map after the operation, and when they are called
    no field that it hides has a value. -/
theorem Tracked.watchers_told (tracked : w.Tracked t) (formed : (w.trackerAt t).Formed)
    (operation : Operation actions) :
    actEachWith (guarded clean) actions w = actEach actions w ∧
      Effect.Yields (actEach actions w) fun _ after =>
        after.published = w.published ++
          if (after.trackerAt t).map = (w.trackerAt t).map then []
          else (w.trackerAt t).listeners.map fun listener =>
            (listener, (after.trackerAt t).map) := by
  constructor
  · obtain ⟨values, names, notices, -, ran⟩ :=
      operation.applies tracked.outside tracked.idle
    have held := holding_becomes (t := t) tracked.records
      { w.storeAt w.store with values } notices
    have follows : w.Follows w.store t := ⟨tracked.toListens, rfl, formed⟩
    have deep : w.depthLimit = w.trackers.length + 998 + 2 := rfl
    rw [← actEachWith_callbacks, ran, ran, deep]
    exact notify_guarded _ (follows.becomes held (.store _ _ rfl rfl) formed) names
  · obtain ⟨values, names, -, ran⟩ := tracked.speaks operation
    refine ran.mono fun _ after spoke => ?_
    rw [spoke.tells.published, Form.published_said tracked.listening,
      Form.told_eq_ite formed, spoke.trackerAt]
    rfl

/-! ## A pet that is forgotten, for instance -/

/-- A host that listens to the tracker of the form about a pet. -/
def petShown : Workspace :=
  (actEach [.track "pet", .start, .watch "shows" [] 0,
    .setMany [("pet", .str "yes"), ("petName", .str "Rex")]]
    { schemas := [("pet", petForm)] }).2

theorem petShown_tracked : petShown.Tracked 0 := by
  have records : petShown.Records := .of_calls (by decide +kernel) (by decide +kernel)
  have alone : petShown.Alone petShown.store 0 :=
    ⟨records, by decide +kernel, by decide +kernel, by decide +kernel⟩
  exact ⟨⟨alone, by decide +kernel⟩, by decide +kernel, by decide +kernel⟩

/-- The pet is cleared, and with it goes its name. -/
theorem petShown_watchers_told :
    petShown.Tracked 0 ∧ (petShown.trackerAt 0).Formed ∧ Operation [.clear ["pet"] true] ∧
      actEachWith (guarded clean) [.clear ["pet"] true] petShown =
        actEach [.clear ["pet"] true] petShown ∧
      Effect.Yields (actEach [.clear ["pet"] true] petShown) fun _ after =>
        after.published = petShown.published ++
          if (after.trackerAt 0).map = (petShown.trackerAt 0).map then []
          else (petShown.trackerAt 0).listeners.map fun listener =>
            (listener, (after.trackerAt 0).map) := by
  have formed : (petShown.trackerAt 0).Formed := by decide +kernel
  exact ⟨petShown_tracked, formed, .change (.clear _),
    petShown_tracked.watchers_told formed (.change (.clear _))⟩

end Workspace

end Formwork
