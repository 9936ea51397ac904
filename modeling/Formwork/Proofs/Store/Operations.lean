import Formwork.Proofs.Session.Batching

/-! # Operations on a store

A host writes and removes values, one call at a time or several in a batch, which may hold
further batches. Whatever an operation consists of, the store is first changed, and then its
listeners are told once of all fields that were touched and now differ.
-/

namespace Formwork

namespace Entries

/-- Whether an entry was added, removed or changed. -/
def altered (before after : Entries Value) (name : String) : Bool :=
  match before.get? name, after.get? name with
  | some old, some new => old.differs new
  | none, none => false
  | _, _ => true

theorem altered_eq_false_iff {before after : Entries Value} {name : String} :
    altered before after name = false ↔
      before.get? name = none ∧ after.get? name = none ∨
      ∃ old new, before.get? name = some old ∧ after.get? name = some new ∧
        old.differs new = false := by
  unfold altered
  cases before.get? name <;> cases after.get? name <;> simp

theorem altered_trans {first second third : Entries Value} {name : String}
    (h : altered first second name = false) (h' : altered second third name = false) :
    altered first third name = false := by
  rw [altered_eq_false_iff] at h h' ⊢
  rcases h with ⟨absent, gone⟩ | ⟨old, between, had, reads, same⟩
  · rcases h' with ⟨-, still⟩ | ⟨_, _, found, -⟩
    · exact .inl ⟨absent, still⟩
    · rw [gone] at found
      cases found
  · rcases h' with ⟨gone, -⟩ | ⟨other, new, found, final, same'⟩
    · rw [reads] at gone
      cases gone
    · rw [reads] at found
      cases found
      rw [Value.differs_eq_false_iff] at same same'
      refine .inr ⟨old, new, had, final, Value.differs_eq_false_iff.mpr ?_⟩
      exact ⟨same.1.trans same'.1, Value.same_trans _ _ _ same.2 same'.2⟩

end Entries

namespace Action

def written : Action → Entries Value
  | .set name value => [(name, value)]
  | .setMany values => values
  | _ => []

/-- The fields whose values an action writes or removes. -/
def touched : Action → List String
  | .set name _ => [name]
  | .setMany values => values.names
  | .clear names _ => names
  | _ => []

/-- An action that changes values of the store in use and tells of it. -/
inductive Changes : Action → Prop where
  | set (name : String) (value : Value) : Changes (.set name value)
  | setMany (values : Entries Value) : Changes (.setMany values)
  | clear (names : List String) : Changes (.clear names true)

end Action

/-- What may stand in a batch. -/
inductive Batch : List Action → Prop where
  | done : Batch []
  | change {action : Action} {rest : List Action} (changes : action.Changes)
      (batch : Batch rest) : Batch (action :: rest)
  | nested {inner rest : List Action} (nested : Batch inner) (failing : Bool)
      (batch : Batch rest) : Batch (.openBatch :: inner ++ .closeBatch failing :: rest)

/-- One call that changes values, or one batch of such calls. -/
inductive Operation : List Action → Prop where
  | change {action : Action} (changes : action.Changes) : Operation [action]
  | batch {actions : List Action} (batch : Batch actions) (failing : Bool) :
      Operation (.openBatch :: actions ++ [.closeBatch failing])

/-- Values before and after some actions, of which these are the fields to tell of. An entry of
    any other field was not touched, or it is neither new nor gone nor does it differ. -/
structure Edit (actions : List Action) (names : List String) (before after : Entries Value) :
    Prop where
  same : ∀ name, name ∉ names →
    name ∉ actions.flatMap Action.touched ∧ after.get? name = before.get? name ∨
      before.altered after name = false
  drawn : ∀ name value, after.get? name = some value →
    before.get? name = some value ∨ (name, value) ∈ actions.flatMap Action.written

namespace Edit

variable {actions more : List Action} {names others : List String}
  {before between after : Entries Value}

theorem refl (names : List String) (values : Entries Value) : Edit [] names values values where
  same := fun _ _ => .inl ⟨List.not_mem_nil, rfl⟩
  drawn := fun _ _ found => .inl found

theorem mono (h : Edit actions names before after) (within : names ⊆ others) :
    Edit actions others before after where
  same := fun name other => h.same name fun member => other (within member)
  drawn := h.drawn

theorem trans (h : Edit actions names before between) (h' : Edit more names between after) :
    Edit (actions ++ more) names before after := by
  constructor
  · intro name other
    rw [List.flatMap_append, List.mem_append, not_or]
    rcases h.same name other with ⟨spared, kept⟩ | same
    · rcases h'.same name other with ⟨spared', kept'⟩ | same'
      · exact .inl ⟨⟨spared, spared'⟩, kept'.trans kept⟩
      · refine .inr ?_
        rwa [Entries.altered, ← kept]
    · rcases h'.same name other with ⟨-, kept'⟩ | same'
      · refine .inr ?_
        rwa [Entries.altered, kept']
      · exact .inr (Entries.altered_trans same same')
  · intro name value found
    rw [List.flatMap_append, List.mem_append]
    rcases h'.drawn name value found with earlier | written
    · exact (h.drawn name value earlier).imp_right .inl
    · exact .inr (.inr written)

theorem around (h : Edit (actions ++ more) names before after) (failing : Bool) :
    Edit (.openBatch :: actions ++ .closeBatch failing :: more) names before after := by
  have touched : (.openBatch :: actions ++ .closeBatch failing :: more).flatMap Action.touched =
      (actions ++ more).flatMap Action.touched := by simp [Action.touched]
  have written : (.openBatch :: actions ++ .closeBatch failing :: more).flatMap Action.written =
      (actions ++ more).flatMap Action.written := by simp [Action.written]
  constructor
  · rw [touched]
    exact h.same
  · rw [written]
    exact h.drawn

/-- Fields that are not to be told of have values that no condition tells from those before. -/
theorem alike (edit : Edit actions names before after)
    (plain : ∀ name value, before.get? name = some value → value.Plain)
    (written : ∀ entry ∈ actions.flatMap Action.written, entry.2.Plain) {name : String}
    (untold : name ∉ names) : (before.value name).Alike (after.value name) := by
  unfold Entries.value
  rcases edit.same name untold with ⟨-, same⟩ | same
  · rw [same]
    exact .refl _
  rcases Entries.altered_eq_false_iff.mp same with ⟨absent, gone⟩ | ⟨old, new, had, reads, same⟩
  · rw [absent, gone]
    exact .refl _
  · have plain' : new.Plain := by
      rcases edit.drawn name new reads with earlier | drawn
      · exact plain name new earlier
      · exact written _ drawn
    rw [had, reads]
    exact Value.alike_of_not_differs (plain name old had) plain' same

end Edit

namespace Store

variable (store : Store) {action : Action}

theorem edit_write {values : Entries Value} (touched : action.touched = values.names)
    (written : action.written = values) :
    Edit [action] (store.changes values) store.values (store.values.putAll values) := by
  refine ⟨fun name other => ?_, fun name value found => ?_⟩
  · rw [List.flatMap_singleton, touched]
    rcases not_written_or_same other with unwritten | ⟨old, new, had, reads, -, same⟩
    · exact .inl ⟨unwritten, Entries.get?_putAll_of_not_mem unwritten _⟩
    · exact .inr (Entries.altered_eq_false_iff.mpr (.inr ⟨old, new, had, reads, same⟩))
  · rw [List.flatMap_singleton, written]
    by_cases known : name ∈ values.names
    · obtain ⟨new, member, reads⟩ := Entries.get?_putAll_of_mem known store.values
      rw [found] at reads
      cases reads
      exact .inr member
    · rw [Entries.get?_putAll_of_not_mem known] at found
      exact .inl found

theorem edit_remove {names : List String} (touched : action.touched = names) :
    Edit [action] (store.present names) store.values
      (store.values.dropAll (store.present names)) := by
  refine ⟨fun name other => ?_, fun name value found => ?_⟩
  · rw [List.flatMap_singleton, touched, Entries.get?_dropAll, if_neg other]
    by_cases known : name ∈ names
    · -- it was to be removed, but had no value to begin with
      have absent : store.values.get? name = none := by
        by_contra held
        refine other (Names.mem_distinct.mpr (List.mem_filter.mpr ⟨known, ?_⟩))
        rwa [Entries.has, Option.isSome_iff_ne_none]
      refine .inr (Entries.altered_eq_false_iff.mpr (.inl ⟨absent, ?_⟩))
      rw [Entries.get?_dropAll, if_neg other, absent]
    · exact .inl ⟨known, rfl⟩
  · rw [Entries.get?_dropAll] at found
    split at found
    · cases found
    · exact .inl found

end Store

namespace Workspace

/-- The workspace in which the store in use, the batches and the notices are other ones. -/
def holding (w : Workspace) (store : Store) (batches : List Nat) (notices : List Notice) :
    Workspace :=
  { w with stores := w.stores.write w.store store, batches, notices }

/-- Do an action, with listeners that are called in some way. -/
def actWith (hooks : Nat → Hooks) (action : Action) : Effect Result := do
  perform (hooks (← get).depthLimit) action

/-- Perform actions one after another, with listeners that are called in some way. -/
def actEachWith (hooks : Nat → Hooks) : List Action → Effect Unit
  | [] => pure ()
  | action :: rest => do
      discard (actWith hooks action)
      actEachWith hooks rest

theorem actEachWith_callbacks (actions : List Action) :
    actEachWith callbacks actions = actEach actions := by
  induction actions with
  | nil => rfl
  | cons action rest ih =>
      rw [actEachWith, ih]
      rfl

variable {w : Workspace} {hooks : Nat → Hooks} {store other : Store} {batches : List Nat}
  {notices : List Notice}

theorem storeAt_holding : (w.holding store batches notices).storeAt w.store = store := by
  simp [holding, storeAt, Table.read_write]

theorem updateStore_holding (f : Store → Store) :
    (w.holding store batches notices).updateStore w.store f =
      w.holding (f store) batches notices := by
  rw [updateStore, storeAt_holding]
  simp [holding, Table.write_write]

theorem holding_holding {later : List Nat} {more : List Notice} :
    (w.holding store batches notices).holding other later more =
      w.holding other later more := by
  simp [holding, Table.write_write]

theorem actEachWith_cons (hooks : Nat → Hooks) (action : Action) (rest : List Action)
    (w : Workspace) : actEachWith hooks (action :: rest) w =
      (discard (actWith hooks action) >>= fun _ => actEachWith hooks rest) w := rfl

theorem actEachWith_append {w' : Workspace} {actions : List Action} (rest : List Action)
    (ran : actEachWith hooks actions w = (.ok (), w')) :
    actEachWith hooks (actions ++ rest) w = actEachWith hooks rest w' := by
  induction actions generalizing w with
  | nil =>
      cases ran
      rfl
  | cons action later ih =>
      obtain ⟨_, between, first, ran⟩ := Effect.ok_of_bind ran
      rw [List.cons_append, actEachWith_cons, Effect.bind_of_ok first]
      exact ih ran

/-- An action that changes values changes them first, and then has the changes recorded. -/
theorem actWith_changes {action : Action} (changes : action.Changes) (w : Workspace) :
    ∃ values names notices, Edit [action] names (w.storeAt w.store).values values ∧
      ∀ hooks : Nat → Hooks, discard (actWith hooks action) w =
        record (hooks w.depthLimit) w.store names
          (w.holding { w.storeAt w.store with values } w.batches notices) := by
  cases changes with
  | set name value =>
      refine ⟨_, _, w.notices, (w.storeAt w.store).edit_write rfl rfl, fun hooks => ?_⟩
      exact (Effect.discard_bind_pure _ _ _).trans (Effect.discard_unit _ _)
  | setMany values =>
      refine ⟨_, _, w.notices, (w.storeAt w.store).edit_write rfl rfl, fun hooks => ?_⟩
      exact (Effect.discard_bind_pure _ _ _).trans (Effect.discard_unit _ _)
  | clear names =>
      obtain ⟨notices, cleared⟩ : ∃ notices, ∀ hooks, clear hooks w.store names true w =
          (record hooks w.store ((w.storeAt w.store).present names) >>=
            fun _ => pure ((w.storeAt w.store).present names))
            (w.holding ((w.storeAt w.store).remove ((w.storeAt w.store).present names)) w.batches
              notices) := by
        unfold clear
        cases none : ((w.storeAt w.store).present names).isEmpty
        · refine ⟨w.notices ++
            [.clearedValues (Names.sorted ((w.storeAt w.store).present names))], fun hooks => ?_⟩
          rw [Effect.get_bind, Effect.modify_bind, none]
          rfl
        · refine ⟨w.notices, fun hooks => ?_⟩
          rw [Effect.get_bind, Effect.modify_bind, none]
          rfl
      refine ⟨_, _, notices, (w.storeAt w.store).edit_remove rfl, fun hooks => ?_⟩
      have does : actWith hooks (.clear names true) w =
          (clear (hooks w.depthLimit) w.store names true >>=
            fun removed => pure (Result.removed removed)) w := rfl
      rw [Effect.discard_eq, Effect.bind_congr does, ← Effect.discard_eq,
        Effect.discard_bind_pure, Effect.discard_eq, Effect.bind_congr (cleared _),
        ← Effect.discard_eq]
      exact (Effect.discard_bind_pure _ _ _).trans (Effect.discard_unit _ _)

/-! ## Inside a batch -/

theorem record_inside (w : Workspace) (hooks : Hooks) (store : Store)
    (inside : store.batchDepth ≠ 0) (names : List String) :
    record hooks w.store names (w.holding store batches notices) = (.ok (), w.holding
      { store with pending := Names.distinct (store.pending ++ names) } batches notices) := by
  rw [record_apply, storeAt_holding, Store.record_inside inside, updateStore_holding]
  rfl

theorem record_outside (w : Workspace) (hooks : Hooks) (store : Store)
    (outside : store.batchDepth = 0) (names : List String) (batches : List Nat)
    (notices : List Notice) :
    record hooks w.store names (w.holding store batches notices) =
      notify hooks w.store (Names.distinct names) (w.holding store batches notices) := by
  rw [record_apply, storeAt_holding, Store.record_outside outside, updateStore_holding]

theorem actWith_openBatch (hooks : Nat → Hooks) (w : Workspace) :
    actWith hooks .openBatch w = (.ok .done, w.holding (w.storeAt w.store).openBatch
      (w.store :: w.batches) w.notices) := rfl

theorem actWith_closeBatch (w : Workspace) (hooks : Nat → Hooks) (store : Store)
    (batches : List Nat) (notices : List Notice) (failing : Bool) :
    discard (actWith hooks (.closeBatch failing)) (w.holding store (w.store :: batches) notices) =
      notify (hooks w.depthLimit) w.store store.closeBatch.1
        (w.holding store.closeBatch.2 batches notices) := by
  have ended : endBatch (hooks w.depthLimit) (w.holding store (w.store :: batches) notices) =
      notify (hooks w.depthLimit) w.store store.closeBatch.1
        (w.holding store.closeBatch.2 batches notices) := by
    rw [endBatch_apply rfl]
    show closeBatch _ _ (w.holding store batches notices) = _
    rw [closeBatch_apply, storeAt_holding, updateStore_holding]
  rw [← ended]
  exact (Effect.discard_bind_pure _ _ _).trans (Effect.discard_unit _ _)

theorem batch_gathers {actions : List Action} (batch : Batch actions) (w : Workspace)
    (store : Store) (inside : store.batchDepth ≠ 0) (batches : List Nat)
    (notices : List Notice) : ∃ values pending more, store.pending ⊆ pending ∧
      Edit actions pending store.values values ∧ ∀ hooks,
        actEachWith hooks actions (w.holding store batches notices) =
          (.ok (), w.holding { store with values, pending } batches more) := by
  induction batch generalizing store batches notices with
  | done => exact ⟨_, _, notices, List.Subset.refl _, .refl _ _, fun _ => rfl⟩
  | change changes _ ih =>
      obtain ⟨values, names, noted, edit, ran⟩ :=
        actWith_changes changes (w.holding store batches notices)
      have here : (w.holding store batches notices).store = w.store := rfl
      simp only [here, storeAt_holding, holding_holding] at edit ran
      have kept : store.pending ⊆ Names.distinct (store.pending ++ names) := fun name member =>
        Names.mem_distinct.mpr (List.mem_append_left _ member)
      have listed : names ⊆ Names.distinct (store.pending ++ names) := fun name member =>
        Names.mem_distinct.mpr (List.mem_append_right _ member)
      obtain ⟨final, pending, more, waits, later, went⟩ :=
        ih { store with values, pending := Names.distinct (store.pending ++ names) } inside
          batches noted
      refine ⟨final, pending, more, List.Subset.trans kept waits,
        (edit.mono (List.Subset.trans listed waits)).trans later, fun hooks => ?_⟩
      have recorded := (ran hooks).trans
        (record_inside w _ { store with values } inside names)
      rw [actEachWith_cons, Effect.bind_of_ok recorded]
      exact went hooks
  | @nested inner rest _ failing _ ihInner ihRest =>
      obtain ⟨values, pending, noted, waits, edit, ran⟩ := ihInner store.openBatch
        (Nat.succ_ne_zero _) (w.store :: batches) notices
      obtain ⟨final, all, more, waits', later, went⟩ :=
        ihRest { store with values, pending } inside batches noted
      refine ⟨final, all, more, List.Subset.trans waits waits',
        ((edit.mono waits').trans later).around failing, fun hooks => ?_⟩
      have opened : discard (actWith hooks .openBatch) (w.holding store batches notices) =
          (.ok (), w.holding store.openBatch (w.store :: batches) notices) := by
        rw [Effect.discard_eq, Effect.bind_of_ok (actWith_openBatch hooks _)]
        show (_, (w.holding store batches notices).holding _ _ _) = _
        rw [holding_holding, show (w.holding store batches notices).store = w.store from rfl,
          storeAt_holding]
        rfl
      have closed := actWith_closeBatch w hooks { store.openBatch with values, pending } batches
        noted failing
      -- this is not the outermost batch, so closing it tells nobody
      have inner : ¬store.batchDepth + 1 ≤ 1 := by omega
      rw [Store.closeBatch_inner inner] at closed
      rw [List.cons_append, actEachWith_cons, Effect.bind_of_ok opened,
        actEachWith_append _ (ran hooks), actEachWith_cons, Effect.bind_of_ok closed]
      exact went hooks

end Workspace

/-! ## Whole operations -/

open Workspace

/-- Outside of batches an operation changes values, and then tells the listeners of the store
    once of the fields to tell of. -/
theorem Operation.applies {actions : List Action} (operation : Operation actions)
    {w : Workspace} (outside : (w.storeAt w.store).batchDepth = 0)
    (idle : (w.storeAt w.store).pending = []) :
    ∃ values names notices, Edit actions names (w.storeAt w.store).values values ∧ ∀ hooks,
      actEachWith hooks actions w = notify (hooks w.depthLimit) w.store names
        (w.holding { w.storeAt w.store with values } w.batches notices) := by
  cases operation with
  | change changes =>
      obtain ⟨values, names, noted, edit, ran⟩ := actWith_changes changes w
      have listed : names ⊆ Names.distinct names := fun _ => Names.mem_distinct.mpr
      refine ⟨values, Names.distinct names, noted, edit.mono listed, fun hooks => ?_⟩
      have recorded := record_outside w (hooks w.depthLimit)
        { w.storeAt w.store with values } outside names w.batches noted
      rw [actEachWith_cons, Effect.bind_congr ((ran hooks).trans recorded)]
      exact Effect.bind_pure_unit _ _
  | @batch actions batch failing =>
      obtain ⟨values, pending, noted, -, edit, ran⟩ := batch_gathers batch w
        (w.storeAt w.store).openBatch (Nat.succ_ne_zero _) (w.store :: w.batches)
          w.notices
      rw [← List.append_nil actions] at edit
      refine ⟨values, pending, noted, edit.around failing, fun hooks => ?_⟩
      have opened : discard (actWith hooks .openBatch) w = (.ok (), w.holding
          (w.storeAt w.store).openBatch (w.store :: w.batches) w.notices) := by
        rw [Effect.discard_eq, Effect.bind_of_ok (actWith_openBatch hooks _)]
        rfl
      have closed := actWith_closeBatch w hooks
        { (w.storeAt w.store).openBatch with values, pending } w.batches noted failing
      have last : (w.storeAt w.store).batchDepth + 1 ≤ 1 := by omega
      rw [Store.closeBatch_last last] at closed
      have same : ({ (w.storeAt w.store).openBatch with values, batchDepth := 0, pending := [] } :
          Store) = { w.storeAt w.store with values } := by
        rw [← outside, ← idle]
        rfl
      rw [same] at closed
      rw [List.cons_append, actEachWith_cons, Effect.bind_of_ok opened,
        actEachWith_append _ (ran hooks), actEachWith_cons, Effect.bind_congr closed]
      exact Effect.bind_pure_unit _ _

end Formwork
