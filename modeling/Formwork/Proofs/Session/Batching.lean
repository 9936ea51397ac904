import Formwork.Proofs.Form.Agreement
import Formwork.Proofs.Session.Filling

/-! # Writes in a batch

A host can make several writes in a batch, and open further batches inside of it. Nobody hears
of the writes until the outermost batch is closed. The form then shows, and has told its
listeners, what it would after one write of what the writes come to.
-/

namespace Formwork

/-- An action that writes values. -/
inductive Action.Writes : Action → Entries Value → Prop where
  | set (name : String) (value : Value) : Writes (.set name value) [(name, value)]
  | setMany (values : Entries Value) : Writes (.setMany values) values
  | sessionSet (name : String) (value : Value) : Writes (.sessionSet name value) [(name, value)]
  | sessionSetMany (values : Entries Value) : Writes (.sessionSetMany values) values

theorem Action.Writes.fills {action : Action} {values : Entries Value}
    (writes : action.Writes values) (plain : ∀ entry ∈ values, entry.2.Plain) :
    action.Fills := by
  cases writes with
  | set name value => exact .set (plain _ List.mem_cons_self)
  | setMany => exact .setMany plain
  | sessionSet name value => exact .sessionSet (plain _ List.mem_cons_self)
  | sessionSetMany => exact .sessionSetMany plain

/-- What a host does in a batch: writes, and batches inside of it. -/
inductive Batched : List Action → List (Entries Value) → Prop where
  | done : Batched [] []
  | write {action : Action} {values : Entries Value} {rest : List Action}
      {edits : List (Entries Value)} (writes : action.Writes values)
      (batched : Batched rest edits) : Batched (action :: rest) (values :: edits)
  | nested {inner rest : List Action} {edits more : List (Entries Value)} (failing : Bool)
      (batch : Batched inner edits) (batched : Batched rest more) :
      Batched (.openBatch :: inner ++ .closeBatch failing :: rest) (edits ++ more)

namespace Workspace

def actEach : List Action → Effect Unit
  | [] => pure ()
  | action :: rest => do
      discard (act action)
      actEach rest

variable {w w' w'' : Workspace} {id : Nat}

theorem actEach_append {actions rest : List Action} (middle : Workspace → Prop)
    {post : Unit → Workspace → Prop}
    (h : Effect.Yields (actEach actions w) fun _ after => middle after)
    (then_ : ∀ after, middle after → Effect.Yields (actEach rest after) post) :
    Effect.Yields (actEach (actions ++ rest) w) post := by
  induction actions generalizing w with
  | nil =>
      obtain ⟨_, after, same, holds⟩ := h
      cases same
      exact then_ w holds
  | cons action later ih =>
      obtain ⟨_, after, ran, holds⟩ := h
      obtain ⟨_, between, first, ran⟩ := Effect.ok_of_bind ran
      show Effect.Yields ((discard (act action) >>= fun _ => actEach (later ++ rest)) w) post
      rw [Effect.bind_of_ok first]
      exact ih ⟨_, after, ran, holds⟩

/-! ## Inside a batch -/

/-- The second workspace is the first after writes of which nobody has heard yet. -/
structure Gathers (w : Workspace) (id : Nat) (edits : List (Entries Value)) (w' : Workspace) :
    Prop where
  attends : w'.Attends id
  is : w'.sessionAt id = w.sessionAt id
  tracker : w'.trackerAt (w.sessionAt id).tracker = w.trackerAt (w.sessionAt id).tracker
  values : (w'.storeAt (w.sessionAt id).store).values =
    (w.storeAt (w.sessionAt id).store).values.putAll edits.flatten
  depth : (w'.storeAt (w.sessionAt id).store).batchDepth =
    (w.storeAt (w.sessionAt id).store).batchDepth
  published : w'.published = w.published

theorem Gathers.refl (attends : w.Attends id) : w.Gathers id [] w :=
  ⟨attends, rfl, rfl, rfl, rfl, rfl⟩

theorem Gathers.trans {edits more : List (Entries Value)} (h : w.Gathers id edits w')
    (h' : w'.Gathers id more w'') : w.Gathers id (edits ++ more) w'' := by
  obtain ⟨attends, is, tracker, values, depth, published⟩ := h'
  rw [h.is] at tracker values depth
  refine ⟨attends, is.trans h.is, tracker.trans h.tracker, ?_, depth.trans h.depth,
    published.trans h.published⟩
  rw [values, h.values, List.flatten_append]
  exact List.foldl_append.symm

theorem act_writes (attends : w.Attends id) {action : Action} {values : Entries Value}
    (writes : action.Writes values) : act action w =
      (setValues (callbacks w.depthLimit) (w.sessionAt id).store values >>=
        fun _ => pure .done) w := by
  have session := currentSession_apply attends.used
  rw [act, Effect.get_bind]
  cases writes with
  | set => rw [perform, Effect.get_bind, attends.current]
  | setMany => rw [perform, Effect.get_bind, attends.current]
  | sessionSet => rw [perform, Effect.bind_of_ok session]
  | sessionSetMany => rw [perform, Effect.bind_of_ok session]

theorem setValues_inside {s : Nat} (inside : (w.storeAt s).batchDepth ≠ 0) (hooks : Hooks)
    (values : Entries Value) : setValues hooks s values w =
      (.ok (), (w.updateStore s (·.write values)).updateStore s fun _ =>
        { (w.storeAt s).write values with
          pending := Names.distinct ((w.storeAt s).pending ++ (w.storeAt s).changes values) })
      := by
  have still : ((w.storeAt s).write values).batchDepth ≠ 0 := inside
  rw [setValues_apply, record_apply, storeAt_updateStore, Store.record_inside still]
  rfl

theorem act_writes_inside (attends : w.Attends id)
    (inside : (w.storeAt (w.sessionAt id).store).batchDepth ≠ 0) {action : Action}
    {values : Entries Value} (writes : action.Writes values)
    (plain : ∀ entry ∈ values, entry.2.Plain) :
    Effect.Yields (act action w) fun _ after => w.Gathers id [values] after := by
  have attended := act_attends attends (writes.fills plain)
  have ran := act_writes attends writes
  rw [Effect.bind_of_ok (setValues_inside inside _ values)] at ran
  rw [ran] at attended ⊢
  refine ⟨_, _, rfl, attended, rfl, rfl, ?_, ?_, rfl⟩
  · rw [storeAt_updateStore, List.flatten_singleton]
    rfl
  · rw [storeAt_updateStore]
    rfl

/-- The workspace after the store of a session has opened a batch. -/
def withBatch (w : Workspace) (id : Nat) : Workspace :=
  (w.withBatches ((w.sessionAt id).store :: w.batches)).updateStore (w.sessionAt id).store
    (·.openBatch)

theorem act_openBatch (attends : w.Attends id) :
    act .openBatch w = (.ok .done, w.withBatch id) := by
  rw [act, Effect.get_bind, perform, withBatch, ← attends.current]
  rfl

theorem actEach_openBatch (attends : w.Attends id) (rest : List Action) :
    actEach (.openBatch :: rest) w = actEach rest (w.withBatch id) := by
  show (discard (act .openBatch) >>= fun _ => actEach rest) w = _
  rw [Effect.discard_eq, Effect.bind_of_ok (Effect.bind_of_ok (act_openBatch attends) _)]

theorem withBatch_attends (attends : w.Attends id) : (w.withBatch id).Attends id := by
  have attended := act_attends attends .openBatch
  rwa [act_openBatch attends] at attended

theorem storeAt_withBatch (w : Workspace) (id : Nat) :
    (w.withBatch id).storeAt (w.sessionAt id).store =
      (w.storeAt (w.sessionAt id).store).openBatch :=
  storeAt_updateStore _ _ _

theorem act_closeBatch {post : Workspace → Prop} (failing : Bool)
    (h : Effect.Yields (endBatch (callbacks w.depthLimit) w) fun _ after => post after) :
    Effect.Yields (act (.closeBatch failing) w) fun _ after => post after := by
  rw [act, Effect.get_bind, perform]
  exact h.bind fun _ _ holds => .pure holds

theorem closeBatch_inside {s : Nat} (inner : ¬(w.storeAt s).batchDepth ≤ 1) (hooks : Hooks) :
    closeBatch hooks s w = (.ok (), w.updateStore s fun _ =>
      { w.storeAt s with batchDepth := (w.storeAt s).batchDepth - 1 }) := by
  rw [closeBatch_apply, Store.closeBatch_inner inner]
  rfl

theorem Gathers.nested (inside : (w.storeAt (w.sessionAt id).store).batchDepth ≠ 0)
    {edits : List (Entries Value)} (gathered : (w.withBatch id).Gathers id edits w')
    (failing : Bool) :
    Effect.Yields (act (.closeBatch failing) w') fun _ after => w.Gathers id edits after := by
  obtain ⟨attends, is, tracker, values, depth, published⟩ := gathered
  have same : w'.sessionAt id = w.sessionAt id := is
  have counted : (w'.storeAt (w.sessionAt id).store).batchDepth =
      (w.storeAt (w.sessionAt id).store).batchDepth + 1 :=
    depth.trans (congrArg Store.batchDepth (storeAt_withBatch w id))
  have written : (w'.storeAt (w.sessionAt id).store).values =
      (w.storeAt (w.sessionAt id).store).values.putAll edits.flatten :=
    values.trans (congrArg (·.values.putAll edits.flatten) (storeAt_withBatch w id))
  -- with one batch more than around it, this is not the outermost one
  have batches := attends.batches
  rw [same, counted, List.replicate_succ] at batches
  have inner : ¬((w'.withBatches (List.replicate (w.storeAt (w.sessionAt id).store).batchDepth
      (w.sessionAt id).store)).storeAt (w.sessionAt id).store).batchDepth ≤ 1 := by
    show ¬(w'.storeAt (w.sessionAt id).store).batchDepth ≤ 1
    omega
  have closed := endBatch_attends (w'.trackers.length + 998) attends (by
    rw [same, counted]
    exact Nat.succ_ne_zero _)
  refine act_closeBatch failing ?_
  have ran := (endBatch_apply batches (callbacks w'.depthLimit)).trans
    (closeBatch_inside inner _)
  have attended := closed.of_eq ran
  rw [ran]
  refine ⟨(), _, rfl, attended, is, tracker, ?_, ?_, published⟩
  · rw [storeAt_updateStore]
    exact written
  · rw [storeAt_updateStore]
    show (w'.storeAt (w.sessionAt id).store).batchDepth - 1 = _
    omega

theorem actEach_gathers {actions : List Action} {edits : List (Entries Value)}
    (batched : Batched actions edits) (plain : ∀ values ∈ edits, ∀ entry ∈ values, entry.2.Plain)
    (attends : w.Attends id) (inside : (w.storeAt (w.sessionAt id).store).batchDepth ≠ 0) :
    Effect.Yields (actEach actions w) fun _ after => w.Gathers id edits after := by
  induction batched generalizing w with
  | done => exact ⟨(), w, rfl, .refl attends⟩
  | write writes _ ih =>
      rw [List.forall_mem_cons] at plain
      have wrote := act_writes_inside attends inside writes plain.1
      refine wrote.discard.bind fun _ between gathered => ?_
      have still : (between.storeAt (between.sessionAt id).store).batchDepth ≠ 0 := by
        rw [gathered.is, gathered.depth]
        exact inside
      exact (ih plain.2 gathered.attends still).mono fun _ _ later => gathered.trans later
  | @nested inner rest edits more failing _ _ ihInner ihRest =>
      rw [List.forall_mem_append] at plain
      refine actEach_append ((w.withBatch id).Gathers id edits) ?_ ?_
      · have deeper : ((w.withBatch id).storeAt
            ((w.withBatch id).sessionAt id).store).batchDepth ≠ 0 := by
          show ((w.withBatch id).storeAt (w.sessionAt id).store).batchDepth ≠ 0
          rw [storeAt_withBatch]
          exact Nat.succ_ne_zero _
        rw [actEach_openBatch attends]
        exact ihInner plain.1 (withBatch_attends attends) deeper
      · intro between gathered
        refine (gathered.nested inside failing).discard.bind fun _ closed left => ?_
        have still : (closed.storeAt (closed.sessionAt id).store).batchDepth ≠ 0 := by
          rw [left.is, left.depth]
          exact inside
        exact (ihRest plain.2 left.attends still).mono fun _ _ later => left.trans later

/-! ## The outermost batch -/

theorem act_closeBatch_last (attends : w.Attends id)
    (last : (w.storeAt (w.sessionAt id).store).batchDepth = 1) (failing : Bool) :
    Effect.Yields (act (.closeBatch failing) w) fun _ after =>
      (w.withBatches []).Tells (w.sessionAt id).store (w.sessionAt id).tracker
        (w.formOf (w.sessionAt id)).closeBatch (w.formOf (w.sessionAt id)).toldOfClose after := by
  have batches := attends.batches
  rw [last, List.replicate_one] at batches
  refine act_closeBatch failing ?_
  rw [endBatch_apply batches]
  exact closeBatch_form (w.trackers.length + 998) (attends.listens.withBatches [])

/-- Whatever is written in a batch, with further batches inside of it or not: in the end the
    form shows, and has published, what it would after one write of what the writes come to. -/
theorem Filling.batch_alike (filling : w.Filling) {session : Session}
    (used : w.session.map w.sessionAt = some session)
    (outside : (w.storeAt session.store).batchDepth = 0) {actions : List Action}
    {edits : List (Entries Value)} (batched : Batched actions edits)
    (plain : ∀ values ∈ edits, ∀ entry ∈ values, entry.2.Plain) (failing : Bool) :
    Effect.Yields (actEach (.openBatch :: actions ++ [.closeBatch failing]) w) fun _ batch =>
      Effect.Yields (act (.sessionSetMany (Entries.ofList edits.flatten)) w) fun _ merged =>
        batch.visibilityOf session = merged.visibilityOf session ∧
        payload batch session = payload merged session ∧
        batch.published = merged.published := by
  obtain ⟨id, attends⟩ := filling.attends
  rw [attends.used] at used
  cases used
  have merges : ∀ entry ∈ Entries.ofList edits.flatten, entry.2.Plain := by
    apply Entries.forall_mem_ofList
    intro entry member
    obtain ⟨values, listed, isIn⟩ := List.mem_flatten.mp member
    exact plain values listed entry isIn
  have opened : ((w.withBatch id).storeAt (w.sessionAt id).store).batchDepth = 1 := by
    rw [storeAt_withBatch]
    exact congrArg (· + 1) outside
  -- until the last action the batch only gathers, and the merged write finds what it found
  refine actEach_append ((w.withBatch id).Gathers id edits) ?_ ?_
  · rw [actEach_openBatch attends]
    refine actEach_gathers batched plain (withBatch_attends attends) ?_
    exact fun none => absurd (opened.symm.trans none) Nat.one_ne_zero
  intro between gathered
  have same : between.sessionAt id = w.sessionAt id := gathered.is
  have depth : (between.storeAt (w.sessionAt id).store).batchDepth = 1 :=
    gathered.depth.trans opened
  have sound := gathered.attends.serves.sound
  have closes := act_closeBatch_last gathered.attends (same ▸ depth) failing
  rw [same] at sound closes
  have written : (between.storeAt (w.sessionAt id).store).values =
      (w.storeAt (w.sessionAt id).store).values.putAll (Entries.ofList edits.flatten) := by
    refine gathered.values.trans ?_
    show ((w.withBatch id).storeAt (w.sessionAt id).store).values.putAll edits.flatten = _
    rw [storeAt_withBatch, Entries.putAll_ofList]
    rfl
  obtain ⟨alike, told⟩ := attends.serves.sound.closeBatch_same sound outside (Nat.le_of_eq depth)
    gathered.tracker merges written
  refine closes.discard.bind fun _ batch closed => .pure ?_
  rw [act_writes attends (.sessionSetMany _)]
  refine (setValues_form (w.trackers.length + 998) attends.listens _).bind
    fun _ merged wrote => .pure ?_
  refine ⟨?_, ?_, ?_⟩
  · rw [closed.toFormBecomes.visibilityOf, wrote.toFormBecomes.visibilityOf]
    exact alike.map
  · rw [closed.toFormBecomes.payload, wrote.toFormBecomes.payload]
    exact alike.payload
  · rw [closed.published, wrote.published]
    exact told ▸ congrArg (· ++ _) gathered.published

/-- There is no pet for a moment, of which nobody hears. -/
theorem petNamed_batch_alike :
    petNamed.Filling ∧ petNamed.session.map petNamed.sessionAt = some (petNamed.sessionAt 0) ∧
      (petNamed.storeAt (petNamed.sessionAt 0).store).batchDepth = 0 ∧
      Effect.Yields (actEach [.openBatch, .set "pet" (.str "no"), .openBatch,
          .sessionSet "pet" (.str "yes"), .closeBatch true, .closeBatch false] petNamed)
        fun _ batch =>
          Effect.Yields (act (.sessionSetMany [("pet", .str "yes")]) petNamed) fun _ merged =>
            batch.visibilityOf (petNamed.sessionAt 0) =
              merged.visibilityOf (petNamed.sessionAt 0) ∧
            payload batch (petNamed.sessionAt 0) = payload merged (petNamed.sessionAt 0) ∧
            batch.published = merged.published := by
  have batched : Batched [.set "pet" (.str "no"), .openBatch, .sessionSet "pet" (.str "yes"),
      .closeBatch true] [[("pet", .str "no")], [("pet", .str "yes")]] :=
    .write (.set _ _) (.nested true (.write (.sessionSet _ _) .done) .done)
  refine ⟨petNamed_filling, rfl, rfl, petNamed_filling.batch_alike rfl rfl batched ?_ false⟩
  intro values listed entry member
  simp only [List.mem_cons, List.not_mem_nil, or_false] at listed
  rcases listed with rfl | rfl <;>
    · simp only [List.mem_singleton] at member
      subst member
      exact ⟨trivial, rfl⟩

end Workspace

end Formwork
