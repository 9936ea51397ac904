import Formwork.Proofs.Store.Watchers

/-! # What comes of telling

Functions of a host may do anything when they are told of a change, even fail, and a tracker that
reacts tells others in its turn. Whatever holds of workspaces as long as stores and trackers change
as they do on such an occasion, holds when everybody has been told, however that ended.
-/

namespace Formwork

/-- What may become of a workspace in a computation, as long as it is sound: at least that stores
    have other values, and trackers other maps. -/
structure Course where
  Sound : Workspace → Prop
  Leads : Workspace → Workspace → Prop
  refl (w : Workspace) : Leads w w
  trans {w w' w'' : Workspace} : Leads w w' → Leads w' w'' → Leads w w''
  keeps {w w' : Workspace} : Leads w w' → Sound w → Sound w'
  store {w : Workspace} (s : Nat) (f : Store → Store)
    (trackers : (f (w.storeAt s)).trackers = (w.storeAt s).trackers) :
    Leads w (w.updateStore s f)
  tracker {w : Workspace} (t : Nat) (f : Tracker → Tracker)
    (store : (f (w.trackerAt t)).store = (w.trackerAt t).store)
    (conditions : (f (w.trackerAt t)).conditions = (w.trackerAt t).conditions)
    (isActive : (f (w.trackerAt t)).isActive = (w.trackerAt t).isActive)
    (formed : (w.trackerAt t).Formed → (f (w.trackerAt t)).Formed) : Leads w (w.updateTracker t f)
  notices {w : Workspace} (notices : List Notice) : Leads w (w.addNotices notices)

namespace Effect

variable {α β : Type} {course : Course} {w w' : Workspace} {post : α → Workspace → Prop}

/-- A computation takes a course, whether it fails or not. If it succeeds, what it answers and
    leaves behind is as said. -/
structure Goes (course : Course) (w : Workspace) (run : Except Fault α × Workspace)
    (post : α → Workspace → Prop) : Prop where
  leads : course.Leads w run.2
  answers : ∀ answer, run.1 = .ok answer → post answer run.2

/-- Nothing is said of what a computation answers. -/
def Any (_ : α) (_ : Workspace) : Prop := True

namespace Goes

theorem pure {answer : α} (holds : post answer w) :
    Goes course w ((Pure.pure answer : Effect α) w) post :=
  ⟨course.refl w, fun _ same => by cases same; exact holds⟩

theorem fail (fault : Fault) : Goes course w ((throw fault : Effect α) w) post :=
  ⟨course.refl w, fun _ same => nomatch same⟩

theorem mono {run : Except Fault α × Workspace} {weaker : α → Workspace → Prop}
    (h : Goes course w run post)
    (within : ∀ answer after, post answer after → weaker answer after) :
    Goes course w run weaker :=
  ⟨h.leads, fun answer same => within answer _ (h.answers answer same)⟩

theorem any {run : Except Fault α × Workspace} (h : Goes course w run post) :
    Goes course w run Any :=
  h.mono fun _ _ _ => trivial

theorem after {run : Except Fault α × Workspace} (leads : course.Leads w w')
    (h : Goes course w' run post) : Goes course w run post :=
  ⟨course.trans leads h.leads, h.answers⟩

theorem changing {f : Workspace → Workspace} {post : Unit → Workspace → Prop}
    (leads : course.Leads w (f w)) (holds : post () (f w)) :
    Goes course w ((modify f : Effect Unit) w) post :=
  ⟨leads, fun _ _ => holds⟩

theorem of_yields {run : Except Fault α × Workspace} (h : Yields run post)
    (leads : ∀ answer after, post answer after → course.Leads w after) :
    Goes course w run Any := by
  obtain ⟨answer, after, rfl, holds⟩ := h
  exact ⟨leads answer after holds, fun _ _ => trivial⟩

theorem bind {first : Effect α} {next : α → Effect β} {middle : α → Workspace → Prop}
    {post : β → Workspace → Prop} (h : Goes course w (first w) middle)
    (rest : ∀ answer between, course.Leads w between → middle answer between →
      Goes course between (next answer between) post) :
    Goes course w ((first >>= next) w) post := by
  rcases run : first w with ⟨fault | answer, between⟩
  · rw [bind_of_error run]
    rw [run] at h
    exact ⟨h.leads, fun _ same => nomatch same⟩
  · rw [bind_of_ok run]
    rw [run] at h
    exact .after h.leads (rest answer between h.leads (h.answers answer rfl))

theorem answering {first : Effect α} (h : Goes course w (first w) post) (f : α → β) :
    Goes course w ((first >>= fun answer => Pure.pure (f answer)) w) Any :=
  h.bind fun _ _ _ _ => .pure trivial

theorem discard {first : Effect α} (h : Goes course w (first w) post) :
    Goes course w (discard first w) Any :=
  h.answering _

theorem ensuring {first : Effect α} (h : Goes course w (first w) Any)
    {f : Workspace → Workspace} (leads : ∀ w, course.Leads w (f w)) :
    Goes course w (first.ensuring f w) Any :=
  ⟨course.trans h.leads (leads _), fun _ _ => trivial⟩

end Goes

end Effect

open Effect

/-- Whoever is called takes the course. -/
structure Hooks.Take (hooks : Hooks) (course : Course) : Prop where
  changed {w : Workspace} (sound : course.Sound w) (listener : Listener) (names : List String)
    (values : Entries Value) : Goes course w (hooks.changed listener names values w) Any
  shown {w : Workspace} (sound : course.Sound w) (listener : String) (map : Visibility) :
    Goes course w (hooks.shown listener map w) Any

namespace Workspace

variable {course : Course} {hooks : Hooks} {w : Workspace}

theorem callListeners_goes (take : hooks.Take course) (sound : course.Sound w) (store : Nat)
    (names : List String) (listeners : List Listener) :
    Goes course w (callListeners hooks store names listeners w) Any := by
  induction listeners generalizing w with
  | nil => exact .pure trivial
  | cons listener rest ih =>
      rw [callListeners_cons]
      exact (take.changed sound listener names _).bind fun _ _ leads _ =>
        ih (course.keeps leads sound)

theorem notify_goes (take : hooks.Take course) (sound : course.Sound w) (store : Nat)
    (names : List String) : Goes course w (notify hooks store names w) Any := by
  rw [notify_apply]
  split
  · exact .pure trivial
  · exact callListeners_goes take sound store names _

theorem record_goes (take : hooks.Take course) (sound : course.Sound w) (store : Nat)
    (names : List String) : Goes course w (record hooks store names w) Any := by
  have recorded : course.Leads w
      (w.updateStore store fun _ => ((w.storeAt store).record names).2) :=
    course.store store _ (Store.record_keeps _ names).2.1
  rw [record_apply]
  exact .after recorded (notify_goes take (course.keeps recorded sound) store _)

theorem setValues_goes (take : hooks.Take course) (sound : course.Sound w) (store : Nat)
    (values : Entries Value) : Goes course w (setValues hooks store values w) Any := by
  have written : course.Leads w (w.updateStore store (·.write values)) :=
    course.store store _ rfl
  rw [setValues_apply]
  exact .after written (record_goes take (course.keeps written sound) store _)

theorem clear_goes (take : hooks.Take course) (sound : course.Sound w) (store : Nat)
    (names : List String) (telling : Bool) :
    Goes course w (clear hooks store names telling w) Any := by
  have removed : course.Leads w
      (w.updateStore store (·.remove ((w.storeAt store).present names))) :=
    course.store store _ rfl
  have tell {w' : Workspace} (sound : course.Sound w') (names : List String) :
      Goes course w' ((do
        if telling then record hooks store names
        return names) w') Any := by
    cases telling
    · exact .pure trivial
    · exact (record_goes take sound store names).answering _
  unfold clear
  rw [get_bind, modify_bind]
  refine .after removed ?_
  dsimp only
  split
  · have noted : course.Leads
        (w.updateStore store (·.remove ((w.storeAt store).present names))) _ :=
      course.notices [.clearedValues (Names.sorted ((w.storeAt store).present names))]
    exact .after noted (tell (course.keeps noted (course.keeps removed sound)) _)
  · exact tell (course.keeps removed sound) _

theorem closeBatch_goes (take : hooks.Take course) (sound : course.Sound w) (store : Nat) :
    Goes course w (closeBatch hooks store w) Any := by
  have closed : course.Leads w
      (w.updateStore store fun _ => (w.storeAt store).closeBatch.2) :=
    course.store store _ (Store.closeBatch_keeps _).2.1
  rw [closeBatch_apply]
  exact .after closed (notify_goes take (course.keeps closed sound) store _)

/-! ## Trackers -/

theorem afterPasses_leads (t : Nat) (affected : List String) :
    course.Leads w (w.afterPasses (w.trackerAt t).store t affected) := by
  have removed : course.Leads w (w.updateStore (w.trackerAt t).store
      (·.remove (w.cycleAt (w.trackerAt t).store t affected).cleared)) := course.store _ _ rfl
  refine course.trans (course.trans removed (course.notices
    (w.cycleAt (w.trackerAt t).store t affected).notices)) ?_
  exact course.tracker t _ rfl rfl rfl fun formed =>
    ⟨formed.distinct, Cycle.settle_fits formed.distinct formed.fits⟩

theorem announcing_leads (t : Nat) (isAnnouncing : Bool) (w : Workspace) :
    course.Leads w (w.updateTracker t fun tracker => { tracker with isAnnouncing }) :=
  course.tracker t _ rfl rfl rfl fun formed => ⟨formed.distinct, formed.fits⟩

theorem runCycle_goes (take : hooks.Take course) (sound : course.Sound w) (t : Nat)
    (affected : List String) : Goes course w (runCycle hooks t affected w) Any := by
  have passed : course.Leads w _ := afterPasses_leads t affected
  rw [runCycle_apply hooks rfl]
  split
  · exact .after passed (.pure trivial)
  · have raised := course.trans passed (announcing_leads t true _)
    have told := record_goes take (course.keeps raised sound) (w.trackerAt t).store
      (w.cycleAt (w.trackerAt t).store t affected).cleared
    exact .after raised ((told.ensuring (announcing_leads t false)).answering _)

theorem callWatchers_goes (take : hooks.Take course) (sound : course.Sound w) (map : Visibility)
    (listeners : List String) : Goes course w (callWatchers hooks map listeners w) Any := by
  induction listeners generalizing w with
  | nil => exact .pure trivial
  | cons listener rest ih =>
      exact (take.shown sound listener map).bind fun _ _ leads _ => ih (course.keeps leads sound)

theorem react_goes (take : hooks.Take course) (sound : course.Sound w) (t : Nat)
    (names : List String) : Goes course w (react hooks t names w) Any := by
  rw [react_apply]
  split
  · exact .pure trivial
  · refine (runCycle_goes take sound t _).bind fun answer between leads _ => ?_
    have noted : course.Leads between _ :=
      course.notices [.visibilityChanged (Names.sorted answer.2)]
    unfold tellWatchers
    split
    · exact .after noted
        (callWatchers_goes take (course.keeps noted (course.keeps leads sound)) _ _)
    · exact .pure trivial

end Workspace

end Formwork
