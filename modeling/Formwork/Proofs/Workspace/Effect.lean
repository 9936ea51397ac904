import Formwork.Workspace.Callbacks

/-! # Computations on a workspace

What a computation does to a workspace, read off one step at a time: how steps follow one
another, and which stores and trackers an update leaves alone.
-/

namespace Formwork

namespace Effect

variable {α β : Type}

/-- A computation succeeds, and what it answers and leaves behind is as said. -/
def Yields (run : Except Fault α × Workspace) (post : α → Workspace → Prop) : Prop :=
  ∃ answer after, run = (.ok answer, after) ∧ post answer after

theorem Yields.mono {run : Except Fault α × Workspace} {post weaker : α → Workspace → Prop}
    (h : Yields run post) (within : ∀ answer after, post answer after → weaker answer after) :
    Yields run weaker := by
  obtain ⟨answer, after, same, holds⟩ := h
  exact ⟨answer, after, same, within answer after holds⟩

theorem Yields.pure {answer : α} {w : Workspace} {post : α → Workspace → Prop}
    (holds : post answer w) : Yields ((Pure.pure answer : Effect α) w) post :=
  ⟨answer, w, rfl, holds⟩

theorem Yields.of_eq {run : Except Fault α × Workspace} {post : α → Workspace → Prop}
    (h : Yields run post) {answer : α} {after : Workspace} (ran : run = (.ok answer, after)) :
    post answer after := by
  obtain ⟨other, later, same, holds⟩ := h
  cases same.symm.trans ran
  exact holds

theorem Yields.snd {run : Except Fault α × Workspace} {post : Workspace → Prop}
    (h : Yields run fun _ after => post after) : post run.2 := by
  obtain ⟨_, after, rfl, holds⟩ := h
  exact holds

theorem bind_of_ok {first : Effect α} {w after : Workspace} {answer : α}
    (h : first w = (.ok answer, after)) (next : α → Effect β) :
    (first >>= next) w = next answer after := by
  simp only [bind, ExceptT.bind, ExceptT.mk, StateT.bind, h]
  rfl

theorem bind_of_error {first : Effect α} {w after : Workspace} {fault : Fault}
    (h : first w = (.error fault, after)) (next : α → Effect β) :
    (first >>= next) w = (.error fault, after) := by
  simp only [bind, ExceptT.bind, ExceptT.mk, StateT.bind, h]
  rfl

theorem Yields.bind {first : Effect α} {w : Workspace} {middle : α → Workspace → Prop}
    {next : α → Effect β} {post : β → Workspace → Prop} (h : Yields (first w) middle)
    (then_ : ∀ answer after, middle answer after → Yields (next answer after) post) :
    Yields ((first >>= next) w) post := by
  obtain ⟨answer, after, same, holds⟩ := h
  rw [bind_of_ok same]
  exact then_ answer after holds

/-- What the first step leaves behind, failed or not, is kept by what comes after it. -/
theorem snd_bind {first : Effect α} {next : α → Effect β} {w : Workspace}
    {post : Workspace → Prop} (h : post (first w).2)
    (then_ : ∀ answer after, post after → post (next answer after).2) :
    post ((first >>= next) w).2 := by
  rcases ran : first w with ⟨fault | answer, after⟩
  · rw [ran] at h
    rw [bind_of_error ran]
    exact h
  · rw [ran] at h
    rw [bind_of_ok ran]
    exact then_ answer after h

theorem bind_congr {first second : Effect α} {w w' : Workspace} (h : first w = second w')
    (next : α → Effect β) : (first >>= next) w = (second >>= next) w' := by
  simp only [bind, ExceptT.bind, ExceptT.mk, StateT.bind, h]

/-- A computation that goes on without touching the workspace leaves it as the first step did. -/
theorem snd_bind_pure (first : Effect α) (f : α → β) (w : Workspace) :
    ((first >>= fun answer => Pure.pure (f answer)) w).2 = (first w).2 := by
  rcases run : first w with ⟨fault | answer, after⟩
  · rw [bind_of_error run]
  · rw [bind_of_ok run]
    rfl

theorem fst_bind_pure (first : Effect α) (f : α → β) (w : Workspace) :
    ((first >>= fun answer => Pure.pure (f answer)) w).1 = (first w).1.map f := by
  rcases run : first w with ⟨fault | answer, after⟩
  · rw [bind_of_error run]
    rfl
  · rw [bind_of_ok run]
    rfl

theorem get_bind (next : Workspace → Effect β) (w : Workspace) :
    ((get : Effect Workspace) >>= next) w = next w w := rfl

theorem modify_bind (f : Workspace → Workspace) (next : Unit → Effect β) (w : Workspace) :
    ((modify f : Effect Unit) >>= next) w = next () (f w) := rfl

theorem discard_eq (first : Effect α) : discard first = first >>= fun _ => pure () := rfl

theorem discard_bind_pure (first : Effect α) (f : α → β) (w : Workspace) :
    discard (first >>= fun answer => Pure.pure (f answer)) w = discard first w := by
  rw [discard_eq, discard_eq]
  rcases ran : first w with ⟨fault | answer, after⟩
  · rw [bind_of_error ran, bind_of_error (bind_of_error ran _)]
  · rw [bind_of_ok ran, bind_of_ok (bind_of_ok ran _)]

theorem bind_pure_unit (first : Effect Unit) (w : Workspace) :
    (first >>= fun _ => Pure.pure ()) w = first w := by
  rcases ran : first w with ⟨fault | answer, after⟩
  · rw [bind_of_error ran]
  · rw [bind_of_ok ran]
    rfl

theorem discard_unit (first : Effect Unit) (w : Workspace) : discard first w = first w :=
  bind_pure_unit first w

theorem Yields.discard {first : Effect α} {w : Workspace} {post : Workspace → Prop}
    (h : Yields (first w) fun _ after => post after) :
    Yields (discard first w) fun _ after => post after := by
  rw [discard_eq]
  exact h.bind fun _ _ holds => .pure holds

theorem Yields.ensuring {action : Effect α} {w : Workspace} {after : Workspace → Workspace}
    {post : α → Workspace → Prop}
    (h : Yields (action w) fun answer between => post answer (after between)) :
    Yields (action.ensuring after w) post := by
  obtain ⟨answer, between, same, holds⟩ := h
  refine ⟨answer, after between, ?_, holds⟩
  simp only [Effect.ensuring, same]

theorem ok_of_bind {first : Effect α} {w after : Workspace} {next : α → Effect β} {answer : β}
    (h : (first >>= next) w = (.ok answer, after)) :
    ∃ middle between, first w = (.ok middle, between) ∧
      next middle between = (.ok answer, after) := by
  rcases run : first w with ⟨middle | fault, between⟩
  · rw [bind_of_error run] at h
    cases h
  · rw [bind_of_ok run] at h
    exact ⟨_, between, rfl, h⟩

theorem ok_of_ensuring {action : Effect α} {w after : Workspace} {f : Workspace → Workspace}
    {answer : α} (h : action.ensuring f w = (.ok answer, after)) :
    ∃ between, action w = (.ok answer, between) ∧ f between = after := by
  have result : (action w).1 = .ok answer := congrArg Prod.fst h
  exact ⟨(action w).2, Prod.ext result rfl, congrArg Prod.snd h⟩

end Effect

namespace Workspace

theorem storeAt_updateStore (w : Workspace) (id : Nat) (f : Store → Store) :
    (w.updateStore id f).storeAt id = f (w.storeAt id) := by
  simp [storeAt, updateStore, Table.read_write]

theorem storeAt_updateStore_of_ne (w : Workspace) {id other : Nat} (h : other ≠ id)
    (f : Store → Store) : (w.updateStore id f).storeAt other = w.storeAt other := by
  simp [storeAt, updateStore, Table.read_write, h.symm]

theorem trackerAt_updateTracker (w : Workspace) (id : Nat) (f : Tracker → Tracker) :
    (w.updateTracker id f).trackerAt id = f (w.trackerAt id) := by
  simp [trackerAt, updateTracker, Table.read_write]

theorem trackerAt_updateTracker_of_ne (w : Workspace) {id other : Nat} (h : other ≠ id)
    (f : Tracker → Tracker) :
    (w.updateTracker id f).trackerAt other = w.trackerAt other := by
  simp [trackerAt, updateTracker, Table.read_write, h.symm]

theorem sessionAt_putSession (w : Workspace) (id : Nat) (session : Session) :
    (w.putSession id session).sessionAt id = session := by
  simp [sessionAt, putSession, Table.read_write]

/-- Events were added, none of which is the submission of a form. -/
def Adds (w w' : Workspace) : Prop :=
  ∃ more, w'.events = w.events ++ more ∧ ∀ data, Event.submitted data ∉ more

theorem Adds.refl (w : Workspace) : w.Adds w :=
  ⟨[], (List.append_nil _).symm, fun _ => List.not_mem_nil⟩

theorem Adds.trans {w w' w'' : Workspace} (h : w.Adds w') (h' : w'.Adds w'') : w.Adds w'' := by
  obtain ⟨more, same, silent⟩ := h
  obtain ⟨rest, same', silent'⟩ := h'
  refine ⟨more ++ rest, by rw [same', same, List.append_assoc], fun data member => ?_⟩
  rcases List.mem_append.mp member with early | late
  · exact silent data early
  · exact silent' data late

/-- A workspace without its stores and trackers, and without what is merely noted. -/
def withoutForms (w : Workspace) : Workspace :=
  { w with
    stores := [], trackers := [], events := [], notices := [], scripts := [], watchScripts := [] }

theorem reads_of_withoutForms {α : Type} {w w' : Workspace} (h : w'.withoutForms = w.withoutForms)
    (read : Workspace → α) (unread : ∀ w, read w.withoutForms = read w) : read w' = read w := by
  rw [← unread w', h, unread]

end Workspace

end Formwork
