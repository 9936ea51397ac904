import Formwork.Proofs.Form.Sound
import Formwork.Proofs.Workspace.Recording

/-! # The form in a workspace

Where functions of the host merely record and one tracker alone listens to a store, an
operation of the workspace does to the tracker and the store what the operation of the form
says, succeeds, and leaves everything else but notes as it was.
-/

namespace Formwork

namespace Form

/-- What functions of the host are told of what a cycle removes. -/
def saidOfCycle (form : Form) (affected : List String) : List Event :=
  let cleared := (form.tracker.cycle affected form.store.values).cleared
  Workspace.wordAt (form.cycle affected).store ((form.store.remove cleared).record cleared).1

/-- What they are told when the tracker hears of changed fields. -/
def saidOfHear (form : Form) (names : List String) : List Event :=
  if (form.tracker.reactsTo names).isEmpty then []
  else form.saidOfCycle (form.tracker.reactsTo names) ++
    (form.tells (form.cycle (form.tracker.reactsTo names))).map fun (listener, map) =>
      .shown listener map

/-- What they are told when some listeners, the tracker among them, are told of changed
    fields. -/
def saidTo (form : Form) (names : List String) : List Listener → List Event
  | [] => []
  | .host name :: rest => .changed name names form.store.values :: saidTo form names rest
  | .tracker _ :: rest =>
      form.saidOfHear names ++ Workspace.wordOf names (form.hear names).store.values rest

/-- What they are told when all listeners are told of changed fields, if there are any. -/
def said (form : Form) (names : List String) : List Event :=
  if names.isEmpty then [] else form.saidTo names form.store.listeners

variable {form : Form}

theorem shows_tells (form later : Form) :
    (form.tells later).map (fun (listener, map) => Event.shown listener map) =
      if (Visibility.flipped later.tracker.map form.tracker.map).isEmpty then []
      else form.tracker.listeners.map fun listener => .shown listener later.tracker.map := by
  unfold tells
  split
  · rfl
  · rw [List.map_map]
    rfl

/-- The maps among what functions of the host are told are those that the tracker tells. -/
theorem published_saidOfHear (form : Form) (names : List String) :
    Workspace.published { events := form.saidOfHear names } = form.told names := by
  unfold saidOfHear told
  split
  · rfl
  · rw [Workspace.published_append, saidOfCycle, Workspace.published_wordAt, List.nil_append,
      Workspace.published, List.filterMap_map]
    exact List.filterMap_some

theorem published_said {t : Nat} (listening : form.store.trackers = [t]) (names : List String) :
    Workspace.published { events := form.said names } = form.told names := by
  have parts : ∀ listeners, listeners.filterMap Listener.tracker? = [t] →
      Workspace.published { events := form.saidTo names listeners } = form.told names := by
    intro listeners listening
    induction listeners with
    | nil => cases listening
    | cons listener rest ih =>
        cases listener with
        | host name => exact ih listening
        | tracker id =>
            rw [saidTo, Workspace.published_append, published_saidOfHear,
              Workspace.published_wordOf, List.append_nil]
  unfold said
  split
  next none => rw [List.isEmpty_iff.mp none, told_nil]; rfl
  next => exact parts _ listening

end Form

namespace Workspace

variable {w w' w'' : Workspace} {s t : Nat}

def formAt (w : Workspace) (s t : Nat) : Form :=
  { tracker := w.trackerAt t, store := w.storeAt s }

/-- But for stores, trackers and notes, the second workspace is the first. -/
structure SameButForms (w w' : Workspace) : Prop where
  others : w'.withoutForms = w.withoutForms
  events : w.Adds w'
  records : w'.Records

/-- But for a store, a tracker and notes, the second workspace is the first. -/
structure SameButForm (s t : Nat) (w w' : Workspace) : Prop extends SameButForms w w' where
  stores : ∀ id, id ≠ s → w'.storeAt id = w.storeAt id
  trackers : ∀ id, id ≠ t → w'.trackerAt id = w.trackerAt id

/-- The second workspace is the first, but for notes and for a form that is now another. -/
structure FormBecomes (w : Workspace) (s t : Nat) (form : Form) (w' : Workspace) : Prop where
  sameButForm : SameButForm s t w w'
  form : w'.formAt s t = form

theorem SameButForms.refl (records : w.Records) : w.SameButForms w := ⟨rfl, .refl w, records⟩

theorem SameButForms.trans (h : w.SameButForms w') (h' : w'.SameButForms w'') :
    w.SameButForms w'' :=
  ⟨h'.others.trans h.others, h.events.trans h'.events, h'.records⟩

theorem SameButForms.reads {α : Type} (h : w.SameButForms w') (read : Workspace → α)
    (unread : ∀ w, read w.withoutForms = read w) : read w' = read w :=
  reads_of_withoutForms h.others read unread

theorem SameButForms.session (h : w.SameButForms w') : w'.session = w.session :=
  h.reads (·.session) fun _ => rfl

theorem SameButForms.store (h : w.SameButForms w') : w'.store = w.store :=
  h.reads (·.store) fun _ => rfl

theorem SameButForms.batches (h : w.SameButForms w') : w'.batches = w.batches :=
  h.reads (·.batches) fun _ => rfl

theorem SameButForms.run (h : w.SameButForms w') : w'.run = w.run :=
  h.reads (·.run) fun _ => rfl

theorem SameButForms.options (h : w.SameButForms w') : w'.options = w.options :=
  h.reads (·.options) fun _ => rfl

theorem SameButForms.sessions (h : w.SameButForms w') : w'.sessions = w.sessions :=
  h.reads (·.sessions) fun _ => rfl

theorem SameButForms.sessionAt (h : w.SameButForms w') (id : Nat) :
    w'.sessionAt id = w.sessionAt id := by
  rw [Workspace.sessionAt, Workspace.sessionAt, h.sessions]

theorem SameButForm.trans (h : SameButForm s t w w') (h' : SameButForm s t w' w'') :
    SameButForm s t w w'' where
  toSameButForms := h.toSameButForms.trans h'.toSameButForms
  stores := fun id other => (h'.stores id other).trans (h.stores id other)
  trackers := fun id other => (h'.trackers id other).trans (h.trackers id other)

theorem Notes.sameButForms (h : w.Notes w') : w.SameButForms w' := ⟨h.others, h.events, h.records⟩

theorem Notes.sameButForm (h : w.Notes w') : SameButForm s t w w' where
  toSameButForms := h.sameButForms
  stores := fun id _ => h.storeAt id
  trackers := fun id _ => h.trackerAt id

theorem Notes.sessions (h : w.Notes w') : w'.sessions = w.sessions := h.sameButForms.sessions

theorem Notes.options (h : w.Notes w') : w'.options = w.options := h.sameButForms.options

theorem Notes.session (h : w.Notes w') : w'.session = w.session := h.sameButForms.session

theorem Notes.store (h : w.Notes w') : w'.store = w.store := h.sameButForms.store

theorem Notes.batches (h : w.Notes w') : w'.batches = w.batches := h.sameButForms.batches

theorem Notes.formAt (h : w.Notes w') : w'.formAt s t = w.formAt s t := by
  simp only [Workspace.formAt, h.storeAt, h.trackerAt]

theorem FormBecomes.refl (records : w.Records) : w.FormBecomes s t (w.formAt s t) w :=
  ⟨(Notes.refl records).sameButForm, rfl⟩

theorem FormBecomes.notes {form : Form} (h : w.FormBecomes s t form w') (h' : w'.Notes w'') :
    w.FormBecomes s t form w'' :=
  ⟨h.sameButForm.trans h'.sameButForm, h'.formAt.trans h.form⟩

theorem Records.updateStore (records : w.Records) (s : Nat) (f : Store → Store) :
    w.SameButForms (w.updateStore s f) :=
  ⟨rfl, .refl w, records.scripts, records.watchScripts⟩

theorem Records.updateTracker (records : w.Records) (t : Nat) (f : Tracker → Tracker) :
    w.SameButForms (w.updateTracker t f) :=
  ⟨rfl, .refl w, records.scripts, records.watchScripts⟩

theorem sameButForm_updateStore (records : w.Records) (f : Store → Store) :
    SameButForm s t w (w.updateStore s f) where
  toSameButForms := records.updateStore s f
  stores := fun _ other => storeAt_updateStore_of_ne w other f
  trackers := fun _ _ => rfl

theorem sameButForm_updateTracker (records : w.Records) (f : Tracker → Tracker) :
    SameButForm s t w (w.updateTracker t f) where
  toSameButForms := records.updateTracker t f
  stores := fun _ _ => rfl
  trackers := fun _ other => trackerAt_updateTracker_of_ne w other f

theorem formAt_updateStore (f : Store → Store) :
    (w.updateStore s f).formAt s t =
      { tracker := w.trackerAt t, store := f (w.storeAt s) } := by
  rw [formAt, storeAt_updateStore]
  rfl

theorem formAt_updateTracker (f : Tracker → Tracker) :
    (w.updateTracker t f).formAt s t =
      { tracker := f (w.trackerAt t), store := w.storeAt s } := by
  rw [formAt, trackerAt_updateTracker]
  rfl

theorem FormBecomes.trans {form later : Form} (h : w.FormBecomes s t form w')
    (h' : w'.FormBecomes s t later w'') : w.FormBecomes s t later w'' :=
  ⟨h.sameButForm.trans h'.sameButForm, h'.form⟩

theorem FormBecomes.trackerAt {form : Form} (h : w.FormBecomes s t form w') :
    w'.trackerAt t = form.tracker := congrArg Form.tracker h.form

theorem FormBecomes.storeAt {form : Form} (h : w.FormBecomes s t form w') :
    w'.storeAt s = form.store := congrArg Form.store h.form

theorem FormBecomes.updateTracker {form : Form} (h : w.FormBecomes s t form w')
    (f : Tracker → Tracker) :
    w.FormBecomes s t { form with tracker := f form.tracker } (w'.updateTracker t f) := by
  refine ⟨h.sameButForm.trans (sameButForm_updateTracker h.sameButForm.records f), ?_⟩
  rw [formAt_updateTracker, h.trackerAt, h.storeAt]

theorem FormBecomes.updateStore {form : Form} (h : w.FormBecomes s t form w')
    (f : Store → Store) :
    w.FormBecomes s t { form with store := f form.store } (w'.updateStore s f) := by
  refine ⟨h.sameButForm.trans (sameButForm_updateStore h.sameButForm.records f), ?_⟩
  rw [formAt_updateStore, h.trackerAt, h.storeAt]

/-- The second workspace is the first, but for a form that is now another, and for notes, these
    events among them. -/
structure Speaks (w : Workspace) (s t : Nat) (form : Form) (said : List Event)
    (w' : Workspace) : Prop extends FormBecomes w s t form w' where
  said : w'.events = w.events ++ said

theorem FormBecomes.silently {form : Form} (h : w.FormBecomes s t form w')
    (events : w'.events = w.events) : w.Speaks s t form [] w' :=
  ⟨h, by rw [events, List.append_nil]⟩

theorem Speaks.logs {form : Form} {said more : List Event} (h : w.Speaks s t form said w')
    (h' : w'.Logs more w'') : w.Speaks s t form (said ++ more) w'' where
  toFormBecomes := h.toFormBecomes.notes h'.toNotes
  said := by rw [h'.said, h.said, List.append_assoc]

theorem Speaks.trans {form later : Form} {said more : List Event}
    (h : w.Speaks s t form said w') (h' : w'.Speaks s t later more w'') :
    w.Speaks s t later (said ++ more) w'' where
  toFormBecomes := h.toFormBecomes.trans h'.toFormBecomes
  said := by rw [h'.said, h.said, List.append_assoc]

theorem Speaks.updateTracker {form : Form} {said : List Event}
    (h : w.Speaks s t form said w') (f : Tracker → Tracker) :
    w.Speaks s t { form with tracker := f form.tracker } said (w'.updateTracker t f) :=
  ⟨h.toFormBecomes.updateTracker f, h.said⟩

/-- The same, where of the events only the maps matter that listeners of trackers were told. -/
structure Tells (w : Workspace) (s t : Nat) (form : Form) (maps : List (String × Visibility))
    (w' : Workspace) : Prop extends FormBecomes w s t form w' where
  published : w'.published = w.published ++ maps

theorem Speaks.tells {form : Form} {said : List Event} (h : w.Speaks s t form said w') :
    w.Tells s t form (published { events := said }) w' where
  toFormBecomes := h.toFormBecomes
  published := by
    unfold Workspace.published
    rw [h.said, List.filterMap_append]

theorem FormBecomes.tells {form later : Form} {maps : List (String × Visibility)}
    (h : w.FormBecomes s t form w') (events : w'.events = w.events)
    (h' : w'.Tells s t later maps w'') : w.Tells s t later maps w'' where
  toFormBecomes := h.trans h'.toFormBecomes
  published := by rw [h'.published, Workspace.published, events, Workspace.published]

/-- No other tracker than this one listens to the store that it is over, and functions of the
    host merely record. -/
structure Alone (w : Workspace) (s t : Nat) : Prop where
  records : w.Records
  follows : (w.trackerAt t).store = s
  quiet : (w.trackerAt t).isAnnouncing = false
  only : ∀ id ∈ (w.storeAt s).trackers, id = t

theorem Alone.becomes {form : Form} (alone : w.Alone s t) (h : w.FormBecomes s t form w')
    (steady : (w.formAt s t).Steady form) : w'.Alone s t where
  records := h.sameButForm.records
  follows := by
    rw [h.trackerAt, steady.tracker]
    exact alone.follows
  quiet := by
    rw [h.trackerAt, steady.tracker]
    exact alone.quiet
  only := by
    rw [h.storeAt, steady.trackers]
    exact alone.only

/-- The tracker listens to its store, once, and is alone in that. -/
structure Listens (w : Workspace) (s t : Nat) : Prop extends Alone w s t where
  listening : (w.storeAt s).trackers = [t]

theorem Listens.becomes {form : Form} (h : w.Listens s t) (h' : w.FormBecomes s t form w')
    (steady : (w.formAt s t).Steady form) : w'.Listens s t where
  toAlone := h.toAlone.becomes h' steady
  listening := by
    rw [h'.storeAt, steady.trackers]
    exact h.listening

theorem Listens.of_same (h : w.Listens s t) (stores : w'.stores = w.stores)
    (trackers : w'.trackers = w.trackers) (records : w'.Records) : w'.Listens s t := by
  refine ⟨⟨records, ?_, ?_, ?_⟩, ?_⟩
  · rw [Workspace.trackerAt, trackers]
    exact h.follows
  · rw [Workspace.trackerAt, trackers]
    exact h.quiet
  · rw [Workspace.storeAt, stores]
    exact h.only
  · rw [Workspace.storeAt, stores]
    exact h.listening

theorem Alone.same (alone : w.Alone s t) : w.FormBecomes s t (w.formAt s t) w :=
  .refl alone.records

theorem Alone.notes (alone : w.Alone s t) (h : w.Notes w') : w'.Alone s t :=
  alone.becomes (alone.same.notes h) (.refl _)

/-! ## Cycles -/

/-- The passes of a cycle of a tracker over a store. -/
def cycleAt (w : Workspace) (s t : Nat) (affected : List String) : Cycle :=
  (w.trackerAt t).cycle affected (w.storeAt s).values

/-- A workspace after the passes of a cycle, before anyone is told of them. -/
def afterPasses (w : Workspace) (s t : Nat) (affected : List String) : Workspace :=
  ((w.updateStore s (·.remove (w.cycleAt s t affected).cleared)).addNotices
    (w.cycleAt s t affected).notices).updateTracker t
      fun tracker => { tracker with map := (w.cycleAt s t affected).map }

theorem runCycle_apply (hooks : Hooks) (follows : (w.trackerAt t).store = s)
    (affected : List String) :
    runCycle hooks t affected w =
      if (w.cycleAt s t affected).cleared.isEmpty then
        (.ok ((w.cycleAt s t affected).map,
          (w.cycleAt s t affected).map.flipped (w.trackerAt t).map), w.afterPasses s t affected)
      else
        ((record hooks s (w.cycleAt s t affected).cleared).ensuring
          (·.updateTracker t fun tracker => { tracker with isAnnouncing := false }) >>=
            fun _ => pure ((w.cycleAt s t affected).map,
              (w.cycleAt s t affected).map.flipped (w.trackerAt t).map))
        ((w.afterPasses s t affected).updateTracker t
          fun tracker => { tracker with isAnnouncing := true }) := by
  subst follows
  simp only [runCycle, Effect.get_bind, Effect.modify_bind]
  show _ = if (w.cycleAt _ t affected).cleared.isEmpty then _ else _
  unfold afterPasses cycleAt
  cases ((w.trackerAt t).cycle affected
    (w.storeAt (w.trackerAt t).store).values).cleared.isEmpty <;> rfl

theorem record_apply (hooks : Hooks) (store : Nat) (names : List String) (w : Workspace) :
    record hooks store names w =
      notify hooks store ((w.storeAt store).record names).1
        (w.updateStore store fun _ => ((w.storeAt store).record names).2) := rfl

variable (depth : Nat)

theorem isDeaf_of_trackers {listeners : List Listener}
    (deaf : ∀ id ∈ listeners.filterMap Listener.tracker?, (w.trackerAt id).isAnnouncing = true) :
    ∀ listener ∈ listeners, w.IsDeaf listener := by
  intro listener member
  cases listener with
  | host name => trivial
  | tracker id => exact deaf id (List.mem_filterMap.mpr ⟨_, member, rfl⟩)

theorem record_deaf (records : w.Records) (names : List String)
    (deaf : ∀ id ∈ (w.storeAt s).trackers, (w.trackerAt id).isAnnouncing = true) :
    Effect.Yields (record (callbacks (depth + 1)) s names w) fun _ after =>
      w.Speaks s t { w.formAt s t with store := ((w.storeAt s).record names).2 }
        (wordAt ((w.storeAt s).record names).2 ((w.storeAt s).record names).1) after := by
  rw [record_apply]
  have kept := (FormBecomes.refl (s := s) (t := t) records).updateStore
    fun _ => ((w.storeAt s).record names).2
  have told := notify_deaf depth kept.sameButForm.records s ((w.storeAt s).record names).1 ?_
  · rw [kept.storeAt] at told
    exact told.mono fun _ after logged => (kept.silently rfl).logs logged
  · rw [kept.storeAt]
    have listening := (Store.record_keeps (w.storeAt s) names).2.1
    exact isDeaf_of_trackers fun id listed => deaf id (listening ▸ listed)

theorem afterPasses_form (records : w.Records) (affected : List String) :
    w.FormBecomes s t
      { tracker := { w.trackerAt t with map := (w.cycleAt s t affected).map }
        store := (w.storeAt s).remove (w.cycleAt s t affected).cleared }
      (w.afterPasses s t affected) := by
  have removed := (FormBecomes.refl (s := s) (t := t) records).updateStore
    (·.remove (w.cycleAt s t affected).cleared)
  have noted := removed.notes
    (removed.sameButForm.records.addNotices (w.cycleAt s t affected).notices)
  exact noted.updateTracker fun tracker =>
    { tracker with map := (w.cycleAt s t affected).map }

theorem Alone.raised_deaf (alone : w.Alone s t) (affected : List String) :
    let raised := (w.afterPasses s t affected).updateTracker t
      fun tracker => { tracker with isAnnouncing := true }
    ∀ id ∈ (raised.storeAt s).trackers, (raised.trackerAt id).isAnnouncing = true := by
  have raised := (afterPasses_form (s := s) (t := t) alone.records affected).updateTracker
    fun tracker => { tracker with isAnnouncing := true }
  intro _ id listening
  rw [raised.storeAt] at listening
  rw [alone.only id listening, raised.trackerAt]

/-- A cycle of a tracker, over a store to which no other tracker listens. Telling listeners of
    its map is not part of it. -/
theorem runCycle_speaks (alone : w.Alone s t) (affected : List String) :
    Effect.Yields (runCycle (callbacks (depth + 1)) t affected w) fun answer after =>
      answer = (((w.formAt s t).cycle affected).tracker.map,
        Visibility.flipped ((w.formAt s t).cycle affected).tracker.map (w.trackerAt t).map) ∧
        w.Speaks s t ((w.formAt s t).cycle affected) ((w.formAt s t).saidOfCycle affected)
          after := by
  have passed := afterPasses_form (s := s) (t := t) alone.records affected
  rw [runCycle_apply _ alone.follows]
  split
  next none =>
    have quiet : (w.formAt s t).saidOfCycle affected = [] := by
      rw [Form.saidOfCycle, show ((w.formAt s t).tracker.cycle affected
        (w.formAt s t).store.values).cleared = [] from List.isEmpty_iff.mp none,
        Store.record_nil, wordAt_nil]
    rw [quiet, Form.cycle_of_isEmpty (w.formAt s t) none]
    exact ⟨_, _, rfl, rfl, passed.silently rfl⟩
  next some =>
    rw [Form.saidOfCycle, Form.cycle_of_not_isEmpty (w.formAt s t) some]
    have raised := passed.updateTracker fun tracker => { tracker with isAnnouncing := true }
    have told := record_deaf (s := s) (t := t) depth raised.sameButForm.records
      (w.cycleAt s t affected).cleared (alone.raised_deaf affected)
    refine Effect.Yields.bind (Effect.Yields.ensuring (told.mono fun _ after logged =>
      ((raised.silently rfl).trans logged).updateTracker fun tracker =>
        { tracker with isAnnouncing := false })) ?_
    rintro - after lowered
    refine ⟨_, after, rfl, rfl, ?_⟩
    rw [raised.form, raised.storeAt, ← alone.quiet] at lowered
    exact lowered

theorem runCycle_form (alone : w.Alone s t) (affected : List String) :
    Effect.Yields (runCycle (callbacks (depth + 1)) t affected w) fun answer after =>
      answer = (((w.formAt s t).cycle affected).tracker.map,
        Visibility.flipped ((w.formAt s t).cycle affected).tracker.map (w.trackerAt t).map) ∧
        w.FormBecomes s t ((w.formAt s t).cycle affected) after :=
  (runCycle_speaks depth alone affected).mono fun _ _ cycled => ⟨cycled.1, cycled.2.toFormBecomes⟩

/-- What a tracker tells its listeners after a cycle. -/
def tellWatchers (hooks : Hooks) (id : Nat) (answer : Visibility × List String) :
    Effect Unit := do
  if !answer.2.isEmpty then
    modify (·.addNotices [.visibilityChanged (Names.sorted answer.2)])
    callWatchers hooks answer.1 ((← get).trackerAt id).listeners

theorem react_apply (hooks : Hooks) (id : Nat) (names : List String) (w : Workspace) :
    react hooks id names w =
      if ((w.trackerAt id).reactsTo names).isEmpty then (.ok (), w)
      else (runCycle hooks id ((w.trackerAt id).reactsTo names) >>= tellWatchers hooks id) w := by
  unfold react tellWatchers
  rw [Effect.get_bind]
  cases ((w.trackerAt id).reactsTo names).isEmpty <;> rfl

theorem react_nothing (hooks : Hooks) {id : Nat} {names : List String}
    (nothing : (w.trackerAt id).reactsTo names = []) :
    react hooks id names w = (.ok (), w) := by
  rw [react_apply, nothing, List.isEmpty_nil, if_pos rfl]

theorem tellWatchers_logs (records : w.Records) (id : Nat) (answer : Visibility × List String) :
    Effect.Yields (tellWatchers (callbacks (depth + 1)) id answer w) fun _ after =>
      w.Logs (if answer.2.isEmpty then []
        else (w.trackerAt id).listeners.map fun listener => .shown listener answer.1) after := by
  unfold tellWatchers
  cases answer.2.isEmpty
  · have noted := records.addNotices [.visibilityChanged (Names.sorted answer.2)]
    exact (callWatchers_logs depth noted.records _ _).mono fun _ after told =>
      (Logs.nothing noted rfl).trans told
  · exact ⟨(), w, rfl, .nothing (.refl records) rfl⟩

theorem react_speaks (alone : w.Alone s t) (names : List String) :
    Effect.Yields (react (callbacks (depth + 1)) t names w) fun _ after =>
      w.Speaks s t ((w.formAt s t).hear names) ((w.formAt s t).saidOfHear names) after := by
  have tracker : (w.formAt s t).tracker = w.trackerAt t := rfl
  rw [react_apply, Form.hear, Form.saidOfHear, tracker]
  by_cases none : ((w.trackerAt t).reactsTo names).isEmpty = true
  · simp only [if_pos none]
    exact ⟨(), w, rfl, (FormBecomes.refl alone.records).silently rfl⟩
  · simp only [if_neg none]
    refine (runCycle_speaks depth alone _).bind ?_
    rintro answer between ⟨rfl, cycled⟩
    refine (tellWatchers_logs depth cycled.sameButForm.records t _).mono fun _ after told => ?_
    rw [cycled.trackerAt] at told
    rw [Form.shows_tells]
    exact cycled.logs told

/-! ## Changes -/

private theorem callListeners_speaks (alone : w.Alone s t) (names : List String)
    {listeners : List Listener} (listening : listeners.filterMap Listener.tracker? = [t]) :
    Effect.Yields (callListeners (callbacks (depth + 2)) s names listeners w) fun _ after =>
      w.Speaks s t ((w.formAt s t).hear names) ((w.formAt s t).saidTo names listeners) after := by
  induction listeners generalizing w with
  | nil => cases listening
  | cons listener rest ih =>
      rw [callListeners_cons]
      cases listener with
      | host name =>
          refine (changed_host (depth + 1) alone.records name names _).bind
            fun _ between told => ?_
          refine (ih (alone.notes told.toNotes) listening).mono fun _ after heard => ?_
          rw [told.formAt] at heard
          exact (((FormBecomes.refl alone.records).silently rfl).logs told).trans heard
      | tracker id =>
          have parts : id = t ∧ rest.filterMap Listener.tracker? = [] := by
            simpa [List.filterMap_cons, Listener.tracker?] using listening
          obtain ⟨rfl, others⟩ := parts
          refine (react_speaks depth alone names).bind fun _ between heard => ?_
          have deaf : ∀ listener ∈ rest, between.IsDeaf listener :=
            isDeaf_of_trackers fun other listed => by
              rw [others] at listed
              cases listed
          refine (callListeners_deaf (depth + 1) heard.sameButForm.records s names deaf).mono
            fun _ after told => ?_
          rw [heard.storeAt] at told
          exact heard.logs told

theorem notify_speaks (listens : w.Listens s t) (names : List String) :
    Effect.Yields (notify (callbacks (depth + 2)) s names w) fun _ after =>
      w.Speaks s t ((w.formAt s t).hear names) ((w.formAt s t).said names) after := by
  rw [notify_apply, Form.said]
  split
  next none =>
    rw [List.isEmpty_iff] at none
    rw [none, Form.hear_nil]
    exact ⟨(), w, rfl, (FormBecomes.refl listens.records).silently rfl⟩
  next => exact callListeners_speaks depth listens.toAlone names listens.listening

theorem notify_form (listens : w.Listens s t) (names : List String) :
    Effect.Yields (notify (callbacks (depth + 2)) s names w) fun _ after =>
      w.Tells s t ((w.formAt s t).hear names) ((w.formAt s t).told names) after := by
  refine (notify_speaks depth listens names).mono fun _ after heard => ?_
  rw [← Form.published_said listens.listening]
  exact heard.tells

theorem record_form (listens : w.Listens s t) (names : List String) :
    Effect.Yields (record (callbacks (depth + 2)) s names w) fun _ after =>
      w.Tells s t ((w.formAt s t).record names) ((w.formAt s t).toldOfRecord names) after := by
  rw [record_apply]
  have kept := (FormBecomes.refl (s := s) (t := t) listens.records).updateStore
    fun _ => ((w.storeAt s).record names).2
  have keeps := Store.record_keeps (w.storeAt s) names
  have still := listens.becomes kept (.store _ _ keeps.2.1 keeps.2.2)
  refine (notify_form depth still _).mono fun _ after heard => ?_
  rw [kept.form] at heard
  exact kept.tells rfl heard

theorem setValues_apply (hooks : Hooks) (store : Nat) (values : Entries Value)
    (w : Workspace) : setValues hooks store values w =
      record hooks store ((w.storeAt store).changes values)
        (w.updateStore store (·.write values)) := rfl

theorem setValues_form (listens : w.Listens s t) (values : Entries Value) :
    Effect.Yields (setValues (callbacks (depth + 2)) s values w) fun _ after =>
      w.Tells s t ((w.formAt s t).write values) ((w.formAt s t).toldOfWrite values) after := by
  have written := (FormBecomes.refl (s := s) (t := t) listens.records).updateStore (·.write values)
  have still := listens.becomes written (.store _ _ rfl rfl)
  rw [setValues_apply]
  refine (record_form depth still _).mono fun _ after recorded => ?_
  rw [written.form] at recorded
  exact written.tells rfl recorded

theorem clear_form (listens : w.Listens s t) (names : List String) :
    Effect.Yields (clear (callbacks (depth + 2)) s names true w) fun _ after =>
      w.FormBecomes s t ((w.formAt s t).clear names) after := by
  have removed := listens.toAlone.same.updateStore
    (·.remove ((w.storeAt s).present names))
  obtain ⟨between, noted, run⟩ : ∃ between,
      (w.updateStore s (·.remove ((w.storeAt s).present names))).Notes between ∧
      clear (callbacks (depth + 2)) s names true w =
        (record (callbacks (depth + 2)) s ((w.storeAt s).present names) >>=
          fun _ => pure ((w.storeAt s).present names)) between := by
    unfold clear
    rw [Effect.get_bind, Effect.modify_bind]
    cases ((w.storeAt s).present names).isEmpty
    · exact ⟨_, removed.sameButForm.records.addNotices _, rfl⟩
    · exact ⟨_, .refl removed.sameButForm.records, rfl⟩
  have told := removed.notes noted
  have still := listens.becomes told (.store _ _ rfl rfl)
  rw [run]
  refine (record_form depth still _).bind fun _ after recorded => ?_
  rw [told.form] at recorded
  exact .pure (told.trans recorded.toFormBecomes)

theorem closeBatch_apply (hooks : Hooks) (store : Nat) (w : Workspace) :
    closeBatch hooks store w =
      notify hooks store (w.storeAt store).closeBatch.1
        (w.updateStore store fun _ => (w.storeAt store).closeBatch.2) := rfl

theorem closeBatch_form (listens : w.Listens s t) :
    Effect.Yields (closeBatch (callbacks (depth + 2)) s w) fun _ after =>
      w.Tells s t (w.formAt s t).closeBatch (w.formAt s t).toldOfClose after := by
  have closed := (FormBecomes.refl (s := s) (t := t) listens.records).updateStore
    fun _ => (w.storeAt s).closeBatch.2
  have keeps := Store.closeBatch_keeps (w.storeAt s)
  have still : (w.updateStore s fun _ => (w.storeAt s).closeBatch.2).Listens s t := by
    refine ⟨⟨closed.sameButForm.records, listens.follows, listens.quiet, ?_⟩, ?_⟩ <;>
      rw [storeAt_updateStore, keeps.2.1]
    · exact listens.only
    · exact listens.listening
  rw [closeBatch_apply]
  refine (notify_form depth still _).mono fun _ after heard => ?_
  rw [closed.form] at heard
  exact closed.tells rfl heard

end Workspace

end Formwork
