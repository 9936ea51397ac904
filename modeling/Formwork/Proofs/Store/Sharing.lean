import Formwork.Proofs.Store.Watchers
import Mathlib.Logic.Relation

/-! # Trackers that share a store

A tracker that removes values of hidden fields takes no notice of anything until all listeners
have heard of that. Other trackers react in the meantime, and may remove values in their turn.
So of a field that another tracker removes because of its own removals a tracker never hears.
For conditions that read no such field, its map is right after every operation.
-/

namespace Formwork

/-- The trackers that share a store, and the conditions of each. -/
structure Sharers where
  trackers : List Nat
  conditions : Nat → Conditions

namespace Sharers

/-- A tracker that changes of some fields concern. -/
def Hears (sharers : Sharers) (names : List String) (t : Nat) : Prop :=
  t ∈ sharers.trackers ∧ ∃ name ∈ names, (sharers.conditions t).Watches name

/-- What one tracker removes can concern another. -/
def Feeds (sharers : Sharers) (first second : Nat) : Prop :=
  sharers.Hears (sharers.conditions first).names second

/-- Changes of some fields can concern a tracker, be it by way of others. -/
def Reaches (sharers : Sharers) (names : List String) (t : Nat) : Prop :=
  ∃ first, sharers.Hears names first ∧ Relation.ReflTransGen sharers.Feeds first t

/-- A field that another tracker can remove because of what a tracker removed. -/
def Echoes (sharers : Sharers) (t : Nat) (name : String) : Prop :=
  ∃ other, other ≠ t ∧ Relation.TransGen sharers.Feeds t other ∧
    name ∈ (sharers.conditions other).names

/-- A tracker need not be right about its echoes. -/
def Spares (sharers : Sharers) (t : Nat) (stale : String → Prop) : Prop :=
  ∀ name, sharers.Echoes t name → stale name

variable {sharers : Sharers} {names removed : List String} {t other : Nat}

theorem Reaches.fed (reaches : sharers.Reaches removed other)
    (within : removed ⊆ (sharers.conditions t).names) :
    Relation.TransGen sharers.Feeds t other := by
  obtain ⟨first, ⟨listed, name, member, watched⟩, path⟩ := reaches
  exact .head' ⟨listed, name, within member, watched⟩ path

theorem Reaches.through (reaches : sharers.Reaches removed other)
    (hears : sharers.Hears names t) (within : removed ⊆ (sharers.conditions t).names) :
    sharers.Reaches names other :=
  ⟨t, hears, (reaches.fed within).to_reflTransGen⟩

theorem Hears.reaches (hears : sharers.Hears names t) : sharers.Reaches names t :=
  ⟨t, hears, .refl⟩

end Sharers

namespace Workspace

variable {w w' w'' : Workspace} {s t : Nat} {sharers : Sharers} {names : List String}

/-- The map of a tracker is right for all conditions that read none of some fields. -/
def RightBut (w : Workspace) (s t : Nat) (stale : String → Prop) : Prop :=
  ∀ name c, (w.trackerAt t).conditions.get? name = some c →
    (∀ read ∈ c.references, ¬stale read) →
    (w.trackerAt t).map.get? name = some (c.holds (w.storeAt s).values)

theorem RightBut.of_entries (right : ∀ entry ∈ (w.trackerAt t).conditions,
    (w.trackerAt t).map.get? entry.1 = some (entry.2.holds (w.storeAt s).values))
    (stale : String → Prop) : w.RightBut s t stale :=
  fun name c has _ => right (name, c) (Entries.mem_of_get? has)

theorem RightBut.mono {stale more : String → Prop} (h : w.RightBut s t stale)
    (within : ∀ name, stale name → more name) : w.RightBut s t more :=
  fun name c has fresh => h name c has fun read reads old => fresh read reads (within read old)

theorem RightBut.same {stale : String → Prop} (h : w.RightBut s t stale)
    (conditions : (w'.trackerAt t).conditions = (w.trackerAt t).conditions)
    (map : (w'.trackerAt t).map = (w.trackerAt t).map)
    (values : ∀ name, ¬stale name →
      (w'.storeAt s).values.get? name = (w.storeAt s).values.get? name) :
    w'.RightBut s t stale := by
  intro name c has fresh
  rw [conditions] at has
  rw [map, h name c has fresh]
  apply congrArg some
  exact Condition.holds_eq_of_get? c fun read reads => (values read (fresh read reads)).symm

/-- The trackers listen to the store, outside of batches, and functions of the host merely
    record. -/
structure Shares (w : Workspace) (s : Nat) (sharers : Sharers) : Prop where
  records : w.Records
  outside : (w.storeAt s).batchDepth = 0
  listening : (w.storeAt s).trackers = sharers.trackers
  follows : ∀ t ∈ sharers.trackers, (w.trackerAt t).store = s
  conditions : ∀ t ∈ sharers.trackers, (w.trackerAt t).conditions = sharers.conditions t
  formed : ∀ t ∈ sharers.trackers, (w.trackerAt t).Formed

theorem Shares.becomes {form : Form} (shares : w.Shares s sharers) (h : w.FormBecomes s t form w')
    (tracker : form.tracker.store = (w.trackerAt t).store ∧
      form.tracker.conditions = (w.trackerAt t).conditions)
    (formed : t ∈ sharers.trackers → form.tracker.Formed)
    (store : form.store.trackers = (w.storeAt s).trackers ∧
      form.store.batchDepth = (w.storeAt s).batchDepth) : w'.Shares s sharers := by
  have each : ∀ other ∈ sharers.trackers,
      (w'.trackerAt other).store = (w.trackerAt other).store ∧
        (w'.trackerAt other).conditions = (w.trackerAt other).conditions ∧
        (w'.trackerAt other).Formed := by
    intro other listed
    by_cases same : other = t
    · subst same
      rw [h.trackerAt]
      exact ⟨tracker.1, tracker.2, formed listed⟩
    · rw [h.sameButForm.trackers other same]
      exact ⟨rfl, rfl, shares.formed other listed⟩
  constructor
  · exact h.sameButForm.records
  · rw [h.storeAt, store.2, shares.outside]
  · rw [h.storeAt, store.1, shares.listening]
  · intro other listed
    rw [(each other listed).1, shares.follows other listed]
  · intro other listed
    rw [(each other listed).2.1, shares.conditions other listed]
  · exact fun other listed => (each other listed).2.2

/-- The tracker is not telling of removed values. -/
def IsQuiet (w : Workspace) (t : Nat) : Prop := (w.trackerAt t).isAnnouncing = false

instance : Decidable (w.IsQuiet t) :=
  inferInstanceAs (Decidable ((w.trackerAt t).isAnnouncing = false))

/-- What comes of telling some of the trackers of changed fields. Those that are telling of
    removed values themselves take no notice. The others remove values; they stay right but for
    echoes, and once they are told also about the changed fields. -/
structure Passes (w : Workspace) (s : Nat) (sharers : Sharers) (names : List String)
    (told : List Nat) (w' : Workspace) : Prop where
  shares : w'.Shares s sharers
  announcing : ∀ t, (w'.trackerAt t).isAnnouncing = (w.trackerAt t).isAnnouncing
  deaf : ∀ t, ¬w.IsQuiet t → (w'.trackerAt t).map = (w.trackerAt t).map
  values : ∀ name, (∀ t, w.IsQuiet t → sharers.Reaches names t →
    name ∉ (sharers.conditions t).names) →
      (w'.storeAt s).values.get? name = (w.storeAt s).values.get? name
  right : ∀ t ∈ sharers.trackers, w.IsQuiet t → ∀ stale, sharers.Spares t stale →
    w.RightBut s t stale → w'.RightBut s t stale
  heard : ∀ t ∈ sharers.trackers, t ∈ told → w.IsQuiet t → ∀ stale, sharers.Spares t stale →
    w.RightBut s t (fun name => stale name ∨ name ∈ names) → w'.RightBut s t stale

theorem Passes.quiet {told : List Nat} (h : w.Passes s sharers names told w') :
    w'.IsQuiet t ↔ w.IsQuiet t := by
  rw [IsQuiet, IsQuiet, h.announcing]

theorem Notes.passes (h : w.Notes w') (shares : w.Shares s sharers) (names : List String) :
    w.Passes s sharers names [] w' where
  shares := shares.becomes ((FormBecomes.refl (t := 0) shares.records).notes h) ⟨rfl, rfl⟩
    (shares.formed 0) ⟨rfl, rfl⟩
  announcing := fun t => by rw [h.trackerAt]
  deaf := fun t _ => by rw [h.trackerAt]
  values := fun name _ => by rw [h.storeAt]
  right := fun t _ _ _ _ right => right.same (by rw [h.trackerAt]) (by rw [h.trackerAt])
    fun name _ => by rw [h.storeAt]
  heard := fun _ _ none => by cases none

theorem Passes.trans {told more : List Nat} (h : w.Passes s sharers names told w')
    (h' : w'.Passes s sharers names more w'') :
    w.Passes s sharers names (told ++ more) w'' where
  shares := h'.shares
  announcing := fun t => (h'.announcing t).trans (h.announcing t)
  deaf := fun t loud => (h'.deaf t (mt h.quiet.mp loud)).trans (h.deaf t loud)
  values := fun name kept =>
    (h'.values name fun t quiet => kept t (h.quiet.mp quiet)).trans (h.values name kept)
  right := fun t listed quiet stale spares right =>
    h'.right t listed (h.quiet.mpr quiet) stale spares (h.right t listed quiet stale spares right)
  heard := by
    intro t listed member quiet stale spares right
    rcases List.mem_append.mp member with early | late
    · exact h'.right t listed (h.quiet.mpr quiet) stale spares
        (h.heard t listed early quiet stale spares right)
    · -- until it is told, the tracker may be wrong about the names, and only about these
      refine h'.heard t listed late (h.quiet.mpr quiet) stale spares ?_
      exact h.right t listed quiet _ (fun name echo => .inl (spares name echo)) right

/-! ## One tracker reacts -/

theorem RightBut.unaffected {stale : String → Prop}
    (h : w.RightBut s t fun name => stale name ∨ name ∈ names)
    (nothing : (w.trackerAt t).conditions.affectedBy names = []) : w.RightBut s t stale := by
  intro name c has fresh
  refine h name c has fun read reads => not_or.mpr ⟨fresh read reads, ?_⟩
  refine Conditions.not_mem_of_not_affected has ?_ reads
  rw [nothing]
  exact List.not_mem_nil

/-- A tracker and its store after the passes of the cycle that changed fields cause. -/
def passedForm (w : Workspace) (s t : Nat) (names : List String) (isAnnouncing : Bool) : Form :=
  let cycle := w.cycleAt s t ((w.trackerAt t).conditions.affectedBy names)
  { tracker := { w.trackerAt t with map := cycle.map, isAnnouncing }
    store := (w.storeAt s).remove cycle.cleared }

def removedBy (w : Workspace) (s t : Nat) (names : List String) : List String :=
  (w.cycleAt s t ((w.trackerAt t).conditions.affectedBy names)).cleared

variable {isAnnouncing : Bool} {stale : String → Prop}

theorem passed_shares (h : w.FormBecomes s t (w.passedForm s t names isAnnouncing) w')
    (shares : w.Shares s sharers) (listed : t ∈ sharers.trackers) : w'.Shares s sharers := by
  have formed := shares.formed t listed
  exact shares.becomes h ⟨rfl, rfl⟩
    (fun _ => ⟨formed.distinct, Cycle.settle_fits formed.distinct formed.fits⟩) ⟨rfl, rfl⟩

theorem RightBut.soundBut (right : w.RightBut s t fun name => stale name ∨ name ∈ names)
    (formed : (w.trackerAt t).Formed) :
    Cycle.SoundBut stale (w.trackerAt t).conditions
      { map := (w.trackerAt t).map, values := (w.storeAt s).values
        pending := (w.trackerAt t).conditions.affectedBy names } := by
  refine ⟨formed.fits, fun name c has fresh unaffected => right name c has fun read reads => ?_⟩
  exact not_or.mpr ⟨fresh read reads, Conditions.not_mem_of_not_affected has unaffected reads⟩

theorem passed_right (h : w.FormBecomes s t (w.passedForm s t names isAnnouncing) w')
    (formed : (w.trackerAt t).Formed)
    (right : w.RightBut s t fun name => stale name ∨ name ∈ names) : w'.RightBut s t stale := by
  have values : (w.cycleAt s t ((w.trackerAt t).conditions.affectedBy names)).values =
      (w.passedForm s t names isAnnouncing).store.values :=
    (Cycle.settle_values formed.distinct formed.fits rfl).1
  intro name c has fresh
  rw [h.trackerAt] at has
  rw [h.trackerAt, h.storeAt, ← values]
  exact (right.soundBut formed).settle_right formed.distinct has fresh

theorem passed_values (h : w.FormBecomes s t (w.passedForm s t names isAnnouncing) w') :
    (w'.storeAt s).values = (w.storeAt s).values.dropAll (w.removedBy s t names) := by
  rw [h.storeAt]
  rfl

theorem passed_right_other (h : w.FormBecomes s t (w.passedForm s t names isAnnouncing) w')
    {other : Nat} (differ : other ≠ t) (right : w.RightBut s other stale) :
    w'.RightBut s other fun name => stale name ∨ name ∈ w.removedBy s t names := by
  have tracker := h.sameButForm.trackers other differ
  refine (right.mono fun _ => .inl).same (by rw [tracker]) (by rw [tracker]) fun name fresh => ?_
  rw [passed_values h, Entries.get?_dropAll, if_neg (not_or.mp fresh).2]

theorem passed_still (h : w.FormBecomes s t (w.passedForm s t names false) w')
    (shares : w.Shares s sharers) (listed : t ∈ sharers.trackers) (quiet : w.IsQuiet t)
    (nothing : w.removedBy s t names = []) : w.Passes s sharers names [t] w' where
  shares := passed_shares h shares listed
  announcing := by
    intro other
    by_cases same : other = t
    · rw [same, h.trackerAt]
      exact quiet.symm
    · rw [h.sameButForm.trackers other same]
  deaf := by
    intro other loud
    have differ : other ≠ t := fun same => loud (same ▸ quiet)
    rw [h.sameButForm.trackers other differ]
  values := by
    intro name _
    rw [passed_values h, nothing, Entries.dropAll_nil]
  right := by
    intro other _ _ stale _ right
    by_cases same : other = t
    · subst same
      exact passed_right h (shares.formed other listed) (right.mono fun _ => .inl)
    · have still := passed_right_other h same right
      rw [nothing] at still
      exact still.mono fun name => Or.rec id nofun
  heard := by
    intro other _ told _ stale _ right
    cases List.mem_singleton.mp told
    exact passed_right h (shares.formed t listed) right

theorem removedBy_subset (shares : w.Shares s sharers) (listed : t ∈ sharers.trackers) :
    Names.distinct (w.removedBy s t names) ⊆ (sharers.conditions t).names := by
  intro name member
  have formed := shares.formed t listed
  rw [← shares.conditions t listed]
  exact (Cycle.settle_values formed.distinct formed.fits rfl).2 (Names.mem_distinct.mp member)

section Loud

/-! A cycle that removes something makes other trackers react. The tracker is raised while they
do, and takes no notice. -/

variable {raised lowered : Workspace} (shares : w.Shares s sharers)
  (listed : t ∈ sharers.trackers) (h : w.FormBecomes s t (w.passedForm s t names true) raised)
  (passes : raised.Passes s sharers (Names.distinct (w.removedBy s t names)) sharers.trackers w')
  (h' : w'.FormBecomes s t
    { tracker := { w'.trackerAt t with isAnnouncing := false }, store := w'.storeAt s } lowered)

include h

theorem raised_loud : ¬raised.IsQuiet t := by
  rw [IsQuiet, h.trackerAt]
  exact nofun

theorem quiet_of_raised {other : Nat} (quiet : raised.IsQuiet other) :
    other ≠ t ∧ w.IsQuiet other := by
  have differ : other ≠ t := fun same => raised_loud h (same ▸ quiet)
  rw [IsQuiet, h.sameButForm.trackers other differ] at quiet
  exact ⟨differ, quiet⟩

include passes h'

theorem lowered_right_other {other : Nat} (isOther : other ∈ sharers.trackers)
    (differ : other ≠ t) (quiet : w.IsQuiet other) (spares : sharers.Spares other stale)
    (right : w.RightBut s other stale) : lowered.RightBut s other stale := by
  have wrong : raised.RightBut s other fun name =>
      stale name ∨ name ∈ Names.distinct (w.removedBy s t names) :=
    (passed_right_other h differ right).mono fun _ => Or.imp_right Names.mem_distinct.mpr
  have still : raised.IsQuiet other := by rwa [IsQuiet, h.sameButForm.trackers other differ]
  have tracker := h'.sameButForm.trackers other differ
  refine (passes.heard other isOther isOther still stale spares wrong).same
    (by rw [tracker]) (by rw [tracker]) fun name _ => ?_
  rw [h'.storeAt]

include shares listed

theorem lowered_right (spares : sharers.Spares t stale)
    (right : w.RightBut s t fun name => stale name ∨ name ∈ names) :
    lowered.RightBut s t stale := by
  refine (passed_right h (shares.formed t listed) right).same ?_ ?_ fun name fresh => ?_
  · rw [h'.trackerAt, (passed_shares h shares listed).conditions t listed]
    exact passes.shares.conditions t listed
  · rw [h'.trackerAt]
    exact passes.deaf t (raised_loud h)
  · -- had another tracker removed the field, it would be an echo
    rw [h'.storeAt]
    refine passes.values name fun other quiet reaches member => fresh (spares name ?_)
    exact ⟨other, (quiet_of_raised h quiet).1, reaches.fed (removedBy_subset shares listed), member⟩

theorem lowered_passes (quiet : w.IsQuiet t) (hears : sharers.Hears names t) :
    w.Passes s sharers names [t] lowered where
  shares := by
    have formed := passes.shares.formed t listed
    exact passes.shares.becomes h' ⟨rfl, rfl⟩ (fun _ => ⟨formed.distinct, formed.fits⟩) ⟨rfl, rfl⟩
  announcing := by
    intro other
    by_cases same : other = t
    · rw [same, h'.trackerAt]
      exact quiet.symm
    · rw [h'.sameButForm.trackers other same, passes.announcing, h.sameButForm.trackers other same]
  deaf := by
    intro other loud
    have differ : other ≠ t := fun same => loud (same ▸ quiet)
    have before := h.sameButForm.trackers other differ
    rw [h'.sameButForm.trackers other differ, ← before]
    exact passes.deaf other (by rwa [IsQuiet, before])
  values := by
    intro name kept
    have within : Names.distinct (w.removedBy s t names) ⊆ (sharers.conditions t).names :=
      removedBy_subset shares listed
    have spared : name ∉ w.removedBy s t names := fun member =>
      kept t quiet hears.reaches (within (Names.mem_distinct.mpr member))
    have untouched := passes.values name fun other calm reaches =>
      kept other (quiet_of_raised h calm).2 (reaches.through hears within)
    rw [h'.storeAt]
    refine untouched.trans ?_
    rw [passed_values h, Entries.get?_dropAll, if_neg spared]
  right := by
    intro other isOther calm stale spares right
    by_cases same : other = t
    · subst same
      exact lowered_right shares listed h passes h' spares (right.mono fun _ => .inl)
    · exact lowered_right_other h passes h' isOther same calm spares right
  heard := by
    intro other _ told _ stale spares right
    cases List.mem_singleton.mp told
    exact lowered_right shares listed h passes h' spares right

end Loud

/-! ## All trackers react -/

/-- How many of the trackers are not telling of removed values. -/
def quietCount (w : Workspace) (sharers : Sharers) : Nat :=
  sharers.trackers.countP fun t => w.IsQuiet t

theorem Passes.quietCount {told : List Nat} (h : w.Passes s sharers names told w') :
    w'.quietCount sharers = w.quietCount sharers := by
  unfold Workspace.quietCount
  simp only [h.quiet]

theorem quietCount_lt {raised : Workspace}
    (h : w.FormBecomes s t (w.passedForm s t names true) raised)
    (listed : t ∈ sharers.trackers) (quiet : w.IsQuiet t) :
    raised.quietCount sharers < w.quietCount sharers := by
  refine Cycle.countP_lt (fun other _ still => ?_) listed (decide_eq_false (raised_loud h))
    (decide_eq_true quiet)
  exact decide_eq_true (quiet_of_raised h (of_decide_eq_true still)).2

theorem FormBecomes.record_outside {form : Form} (h : w.FormBecomes s t form w')
    (outside : form.store.batchDepth = 0) (hooks : Hooks) (names : List String) :
    ∃ same, w.FormBecomes s t form same ∧
      record hooks s names w' = notify hooks s (Names.distinct names) same := by
  have kept := h.updateStore fun _ => form.store
  refine ⟨_, kept, ?_⟩
  rw [record_apply, h.storeAt, Store.record_outside outside]

/-- Telling of changed fields goes well down to a depth, as long as no more trackers than that
    can react. -/
def TellsAll (s : Nat) (sharers : Sharers) (depth : Nat) : Prop :=
  ∀ w names, w.Shares s sharers → w.quietCount sharers ≤ depth →
    Effect.Yields (notify (callbacks (depth + 1)) s names w) fun _ after =>
      w.Passes s sharers names sharers.trackers after

theorem runCycle_passes {depth : Nat} (tells : TellsAll s sharers depth)
    (few : w.quietCount sharers ≤ depth + 1) (shares : w.Shares s sharers) (quiet : w.IsQuiet t)
    (hears : sharers.Hears names t) :
    Effect.Yields (runCycle (callbacks (depth + 1)) t
      ((w.trackerAt t).conditions.affectedBy names) w) fun _ after =>
        w.Passes s sharers names [t] after := by
  have listed := hears.1
  have passed := afterPasses_form (s := s) (t := t) shares.records
    ((w.trackerAt t).conditions.affectedBy names)
  rw [runCycle_apply _ (shares.follows t listed)]
  split
  next nothing =>
    have form : w.passedForm s t names false =
        { tracker := { w.trackerAt t with
            map := (w.cycleAt s t ((w.trackerAt t).conditions.affectedBy names)).map }
          store := (w.storeAt s).remove
            (w.cycleAt s t ((w.trackerAt t).conditions.affectedBy names)).cleared } := by
      rw [← show _ = false from quiet]
      rfl
    rw [← form] at passed
    exact ⟨_, _, rfl, passed_still passed shares listed quiet (List.isEmpty_iff.mp nothing)⟩
  next =>
    have raised : w.FormBecomes s t (w.passedForm s t names true) _ := passed.updateTracker
      fun tracker => { tracker with isAnnouncing := true }
    have outside := (passed_shares raised shares listed).outside
    obtain ⟨same, becomes, ran⟩ := raised.record_outside (raised.storeAt ▸ outside)
      (callbacks (depth + 1)) (w.cycleAt s t ((w.trackerAt t).conditions.affectedBy names)).cleared
    refine Effect.Yields.bind (Effect.Yields.ensuring ?_) fun _ _ passes => .pure passes
    rw [ran]
    have fewer := quietCount_lt becomes listed quiet
    refine (tells same _ (passed_shares becomes shares listed) (by omega)).mono
      fun _ after passes => ?_
    have lowers := (FormBecomes.refl (s := s) (t := t) passes.shares.records).updateTracker
      fun tracker => { tracker with isAnnouncing := false }
    exact lowered_passes shares listed becomes passes lowers quiet hears

theorem react_passes {depth : Nat} (tells : TellsAll s sharers depth)
    (few : w.quietCount sharers ≤ depth + 1) (shares : w.Shares s sharers)
    (listed : t ∈ sharers.trackers) (quiet : w.IsQuiet t) :
    Effect.Yields (react (callbacks (depth + 1)) t names w) fun _ after =>
      w.Passes s sharers names [t] after := by
  rw [react_apply, Tracker.reactsTo_quiet quiet]
  split
  next nothing =>
    have still := (Notes.refl shares.records).passes shares names
    refine ⟨(), w, rfl, { still with heard := ?_ }⟩
    intro other _ told _ stale _ right
    cases List.mem_singleton.mp told
    exact right.unaffected (List.isEmpty_iff.mp nothing)
  next busy =>
    have hears : sharers.Hears names t := by
      obtain ⟨name, member⟩ := List.exists_mem_of_ne_nil _ (mt List.isEmpty_iff.mpr busy)
      obtain ⟨c, has, read, reads, changed⟩ := Conditions.mem_affectedBy.mp member
      refine ⟨listed, read, changed, ?_⟩
      rw [← shares.conditions t listed]
      exact ⟨(name, c), has, reads⟩
    refine (runCycle_passes tells few shares quiet hears).bind fun answer between passes => ?_
    refine (tellWatchers_logs depth passes.shares.records t answer).mono fun _ after told => ?_
    exact passes.trans (told.toNotes.passes passes.shares names)

theorem callListeners_passes {depth : Nat} {listeners : List Listener}
    (each : ∀ listener ∈ listeners, ∀ w values, w.Shares s sharers →
      w.quietCount sharers ≤ depth →
      Effect.Yields ((callbacks (depth + 1)).changed listener names values w) fun _ after =>
        w.Passes s sharers names ([listener].filterMap Listener.tracker?) after)
    (shares : w.Shares s sharers) (few : w.quietCount sharers ≤ depth) :
    Effect.Yields (callListeners (callbacks (depth + 1)) s names listeners w) fun _ after =>
      w.Passes s sharers names (listeners.filterMap Listener.tracker?) after := by
  induction listeners generalizing w with
  | nil => exact ⟨(), w, rfl, (Notes.refl shares.records).passes shares names⟩
  | cons listener rest ih =>
      rw [callListeners_cons]
      refine (each _ List.mem_cons_self w _ shares few).bind fun _ between passes => ?_
      refine (ih (fun other member => each other (List.mem_cons_of_mem _ member)) passes.shares
        (by rwa [passes.quietCount])).mono fun _ after later => ?_
      rw [← List.singleton_append, List.filterMap_append]
      exact passes.trans later

theorem tellsAll_of_react {depth : Nat}
    (reacts : ∀ w t names values, w.Shares s sharers → w.quietCount sharers ≤ depth →
      t ∈ sharers.trackers → w.IsQuiet t →
      Effect.Yields ((callbacks (depth + 1)).changed (.tracker t) names values w) fun _ after =>
        w.Passes s sharers names [t] after) : TellsAll s sharers depth := by
  intro w names shared few
  rw [notify_apply]
  split
  next none =>
    have still := (Notes.refl shared.records).passes shared names
    refine ⟨(), w, rfl, { still with heard := ?_ }⟩
    intro t _ _ _ stale _ right
    rw [List.isEmpty_iff.mp none] at right
    exact right.mono fun name => Or.rec id nofun
  next =>
    rw [← shared.listening]
    refine callListeners_passes (fun listener member w values shares few => ?_) shared few
    cases listener with
    | host name =>
        exact (changed_host depth shares.records name names values).mono fun _ after told =>
          told.toNotes.passes shares names
    | tracker id =>
        by_cases quiet : w.IsQuiet id
        · have listed : id ∈ sharers.trackers := by
            rw [← shared.listening]
            exact Store.mem_trackers member
          exact reacts w id names values shares few listed quiet
        · have deaf : w.IsDeaf (.tracker id) := Bool.of_not_eq_false quiet
          refine (changed_deaf depth shares.records deaf names values).mono fun _ after told => ?_
          have still := told.toNotes.passes shares names
          refine { still with heard := fun t _ told silent => ?_ }
          cases List.mem_singleton.mp told
          exact absurd silent quiet

/-- However trackers make one another react, each of them is told of everything but echoes. -/
theorem notify_passes (depth : Nat) : TellsAll s sharers depth := by
  induction depth with
  | zero =>
      -- whoever reacts is quiet itself, so there is one more level to go
      refine tellsAll_of_react fun w t names values shares few listed quiet => ?_
      have some : 0 < w.quietCount sharers :=
        List.countP_pos_iff.mpr ⟨t, listed, decide_eq_true quiet⟩
      omega
  | succ depth ih =>
      refine tellsAll_of_react fun w t names values shares few listed quiet => ?_
      rw [callbacks_tracker]
      exact react_passes ih few shares listed quiet

/-! ## Operations on a store that is shared -/

theorem plain_of_text {values : Entries Value} (text : ∀ entry ∈ values, entry.2.kind = .str)
    (name : String) (value : Value) (found : values.get? name = some value) : value.Plain := by
  have isText := text _ (Entries.mem_of_get? found)
  cases value with
  | str => exact ⟨trivial, rfl⟩
  | _ => cases isText

/-- Trackers that were started, each of them once, share the store in use, outside of batches,
    while functions of the host merely record. -/
structure Shared (w : Workspace) : Prop where
  records : w.Records
  outside : (w.storeAt w.store).batchDepth = 0
  idle : (w.storeAt w.store).pending = []
  plain : ∀ name value, (w.storeAt w.store).values.get? name = some value → value.Plain
  distinct : (w.storeAt w.store).trackers.Nodup
  follows : ∀ t ∈ (w.storeAt w.store).trackers, (w.trackerAt t).store = w.store
  active : ∀ t ∈ (w.storeAt w.store).trackers, (w.trackerAt t).isActive = true
  quiet : ∀ t ∈ (w.storeAt w.store).trackers, w.IsQuiet t
  formed : ∀ t ∈ (w.storeAt w.store).trackers, (w.trackerAt t).Formed

/-- The trackers that share the store in use. -/
def sharing (w : Workspace) : Sharers where
  trackers := (w.storeAt w.store).trackers
  conditions := fun t => (w.trackerAt t).conditions

theorem Shared.shares (shared : w.Shared) : w.Shares w.store w.sharing :=
  ⟨shared.records, shared.outside, rfl, shared.follows, fun _ _ => rfl, shared.formed⟩

/-- Each tracker that was started is one of the workspace, so callbacks may go as deep as there
    are trackers that share the store. -/
theorem Shared.trackers_le (shared : w.Shared) :
    (w.storeAt w.store).trackers.length ≤ w.trackers.length := by
  have known : (w.storeAt w.store).trackers ⊆ w.trackers.map (·.1) := by
    intro t listed
    by_contra absent
    have active := shared.active t listed
    rw [trackerAt, Table.read_of_not_mem absent] at active
    cases active
  have fewer := (List.subperm_of_subset shared.distinct known).length_le
  rwa [List.length_map] at fewer

/-- Whatever trackers of whatever forms share a store: if before an operation the map of each is
    right for the conditions that read none of its echoes, so it is after the operation. -/
theorem Shared.right_but_echoes (shared : w.Shared) {actions : List Action}
    (operation : Operation actions)
    (plain : ∀ entry ∈ actions.flatMap Action.written, entry.2.Plain)
    (right : ∀ t ∈ (w.storeAt w.store).trackers,
      w.RightBut w.store t (w.sharing.Echoes t)) :
    Effect.Yields (actEach actions w) fun _ after =>
      ∀ t ∈ (w.storeAt w.store).trackers, after.RightBut w.store t (w.sharing.Echoes t) := by
  obtain ⟨values, names, notices, edit, ran⟩ := operation.applies shared.outside shared.idle
  have held := holding_becomes (t := 0) shared.records { w.storeAt w.store with values } notices
  have shares := shared.shares.becomes held ⟨rfl, rfl⟩ (shared.formed 0) ⟨rfl, rfl⟩
  have tells : TellsAll w.store w.sharing (w.trackers.length + 999) := notify_passes _
  rw [← actEachWith_callbacks, ran]
  refine (tells _ names shares ?_).mono fun _ after passes t listed => ?_
  · have enough := shared.trackers_le
    exact Nat.le_trans List.countP_le_length (Nat.le_trans enough (Nat.le_add_right _ _))
  · refine passes.heard t listed listed (shared.quiet t listed) _ (fun _ echo => echo) ?_
    intro name c has fresh
    rw [held.storeAt]
    refine (right t listed name c has fun read reads => (not_or.mp (fresh read reads)).1).trans ?_
    apply congrArg some
    apply Condition.holds_congr
    intro read reads
    exact edit.alike shared.plain plain (not_or.mp (fresh read reads)).2

/-! ## Pets with tags, for instance -/

def fieldIs (field value : String) : Condition where
  field := some field
  operator := none
  value := .str value
  equals := none
  conditions := none
  combinator := none

/-- A form about a pet, in which a collar is asked for where there is a tag. -/
def petCollared : Schema where
  title := "Pet"
  body := .flat
    [{ name := "pet" }, petName, { name := "collar", condition := fieldIs "tag" "yes" }]

def petTag : Schema where
  title := "Tag"
  body := .flat [{ name := "tag", condition := fieldIs "petName" "Rex" }]

/-- Trackers of both forms over one store, the one about the tag first. -/
def petTagged (form : Schema) : Workspace :=
  (actEach [.track "tag", .start, .track "pet", .start]
    { schemas := [("pet", form), ("tag", petTag)]
      stores := [(0, { values :=
        [("pet", .str "yes"), ("petName", .str "Rex"), ("tag", .str "yes")] })] }).2

theorem petTagged_shared {form : Schema} (either : form = petForm ∨ form = petCollared) :
    (petTagged form).Shared := by
  have text : ∀ entry ∈ ((petTagged form).storeAt (petTagged form).store).values,
      entry.2.kind = .str := by
    rcases either with rfl | rfl <;> decide +kernel
  rcases either with rfl | rfl <;> exact
    { records := .of_calls (by decide +kernel) (by decide +kernel)
      outside := by decide +kernel
      idle := by decide +kernel
      plain := plain_of_text text
      distinct := by decide +kernel
      follows := by decide +kernel
      active := by decide +kernel
      quiet := by decide +kernel
      formed := by decide +kernel }

theorem petTagged_right {form : Schema} (either : form = petForm ∨ form = petCollared)
    (stale : String → Prop) :
    ∀ t ∈ ((petTagged form).storeAt (petTagged form).store).trackers,
      (petTagged form).RightBut (petTagged form).store t stale := by
  have right : ∀ t ∈ ((petTagged form).storeAt (petTagged form).store).trackers,
      ∀ entry ∈ ((petTagged form).trackerAt t).conditions,
        ((petTagged form).trackerAt t).map.get? entry.1 =
          some (entry.2.holds ((petTagged form).storeAt (petTagged form).store).values) := by
    rcases either with rfl | rfl <;> decide +kernel
  exact fun t listed => .of_entries (right t listed) stale

/-- The pet goes, and with it its name and, because of that, the tag. -/
theorem petTagged_right_but_echoes :
    (petTagged petForm).Shared ∧ Operation [.set "pet" (.str "no")] ∧
      (∀ entry ∈ [Action.set "pet" (.str "no")].flatMap Action.written, entry.2.Plain) ∧
      (∀ t ∈ ((petTagged petForm).storeAt (petTagged petForm).store).trackers,
        (petTagged petForm).RightBut (petTagged petForm).store t
          ((petTagged petForm).sharing.Echoes t)) ∧
      Effect.Yields (actEach [.set "pet" (.str "no")] (petTagged petForm)) fun _ after =>
        ∀ t ∈ ((petTagged petForm).storeAt (petTagged petForm).store).trackers,
          after.RightBut (petTagged petForm).store t ((petTagged petForm).sharing.Echoes t) := by
  have shared := petTagged_shared (.inl rfl)
  have operation : Operation [.set "pet" (.str "no")] := .change (.set _ _)
  have plain : ∀ entry ∈ [Action.set "pet" (.str "no")].flatMap Action.written,
      entry.2.Plain := fun entry member => List.mem_singleton.mp member ▸ ⟨trivial, rfl⟩
  have right := fun t => petTagged_right (.inl rfl) ((petTagged petForm).sharing.Echoes t) t
  exact ⟨shared, operation, plain, right, shared.right_but_echoes operation plain right⟩

/-- The collar is still shown although the tag is gone: the tracker that shows it did not hear
    of that, because it was telling of the removed name then. -/
theorem petTagged_collar_unheard :
    (petTagged petCollared).Shared ∧ Operation [.set "pet" (.str "no")] ∧
      (∀ entry ∈ [Action.set "pet" (.str "no")].flatMap Action.written, entry.2.Plain) ∧
      (∀ t ∈ ((petTagged petCollared).storeAt (petTagged petCollared).store).trackers,
        (petTagged petCollared).RightBut (petTagged petCollared).store t fun _ => False) ∧
      ¬Effect.Yields (actEach [.set "pet" (.str "no")] (petTagged petCollared)) fun _ after =>
        ∀ t ∈ ((petTagged petCollared).storeAt (petTagged petCollared).store).trackers,
          after.RightBut (petTagged petCollared).store t fun _ => False := by
  refine ⟨petTagged_shared (.inr rfl), .change (.set _ _), fun entry member =>
    List.mem_singleton.mp member ▸ ⟨trivial, rfl⟩, petTagged_right (.inr rfl) _, fun yields => ?_⟩
  have answers : (((actEach [.set "pet" (.str "no")] (petTagged petCollared)).2.trackerAt
      1).conditions.get? "collar").map (·.holds ((actEach [.set "pet" (.str "no")]
        (petTagged petCollared)).2.storeAt (petTagged petCollared).store).values) =
          some false := by decide +kernel
  have kept : ((actEach [.set "pet" (.str "no")] (petTagged petCollared)).2.trackerAt 1).map.get?
      "collar" = some true := by decide +kernel
  obtain ⟨c, has, hidden⟩ := Option.map_eq_some_iff.mp answers
  have shown := yields.snd 1 (by decide +kernel) "collar" c has fun _ _ => id
  rw [kept, hidden] at shown
  cases shown

end Workspace

end Formwork
