import Formwork.Proofs.Names
import Formwork.Proofs.Visibility.Cycle
import Formwork.Visibility.Tracker

/-! # Cycles in any order

The order in which fields are declared, and with it the order in which conditions are evaluated,
values removed and watchers looked up, decides the order of a map and nothing else. Two cycles that
differ only in such orders come to the same mapping, and remove the same values in the same passes.
That remains so where each pass goes through its sets in an order of its own.
-/

namespace Formwork

/-- Two lists of the same names, in whatever order and however often. -/
def Names.Same (names others : List String) : Prop := ∀ name, name ∈ names ↔ name ∈ others

namespace Names.Same

variable {names others : List String}

theorem of_perm (perm : names.Perm others) : Same names others := fun _ => perm.mem_iff

theorem isEmpty (same : Same names others) : names.isEmpty = others.isEmpty := by
  have members : ∀ name, name ∈ names ↔ name ∈ others := same
  rw [Bool.eq_iff_iff]
  simp [List.eq_nil_iff_forall_not_mem, members]

theorem contains (same : Same names others) (name : String) :
    names.contains name = others.contains name := by
  simp [same name]

theorem append {more rest : List String} (same : Same names others) (same' : Same more rest) :
    Same (names ++ more) (others ++ rest) := by
  intro name
  simp only [List.mem_append, same name, same' name]

theorem distinct (same : Same names others) : Same (distinct names) (distinct others) := by
  intro name
  rw [mem_distinct, mem_distinct, same name]

end Names.Same

namespace Entries

variable {α : Type} {entries others : Entries α}

/-- The same entries in whatever order, no name twice. -/
structure Rearranged (entries others : Entries α) : Prop where
  distinct : entries.names.Nodup
  perm : entries.Perm others

theorem Rearranged.distinct' (rearranged : entries.Rearranged others) : others.names.Nodup :=
  (rearranged.perm.map Prod.fst).nodup_iff.mp rearranged.distinct

theorem Rearranged.get? (rearranged : entries.Rearranged others) (name : String) :
    entries.get? name = others.get? name :=
  (get?_perm rearranged.distinct rearranged.perm name).symm

theorem Rearranged.of_get? (distinct : entries.names.Nodup) (distinct' : others.names.Nodup)
    (same : ∀ name, entries.get? name = others.get? name) : entries.Rearranged others :=
  ⟨distinct, perm_of_get? distinct distinct' same⟩

theorem dropAll_congr {names more : List String} (same : Names.Same names more)
    (entries : Entries α) : entries.dropAll names = entries.dropAll more := by
  simp only [dropAll, same.contains]

end Entries

/-- The fields of which a notice says that their values were removed. -/
def Notice.removed? : Notice → Option (List String)
  | .clearedValues names => some names
  | _ => none

/-- What was removed, each time that something was. -/
def removals (notices : List Notice) : List (List String) := notices.filterMap Notice.removed?

theorem removals_append (notices more : List Notice) :
    removals (notices ++ more) = removals notices ++ removals more :=
  List.filterMap_append

namespace Condition

theorem removals_leafNotices (c : Condition) : removals c.leafNotices = [] := by
  unfold leafNotices
  split
  · rfl
  · split
    · split <;> rfl
    · rfl

mutual

theorem removals_notices (c : Condition) : removals c.notices = [] := by
  match c with
  | ⟨_, _, _, _, some (child :: rest), _⟩ =>
      rw [notices, removals_append, removals_notices child, removals_noticesOfAll rest]
      rfl
  | ⟨_, _, _, _, some [], _⟩ => simp [notices, removals_leafNotices]
  | ⟨_, _, _, _, none, _⟩ => simp [notices, removals_leafNotices]

theorem removals_noticesOfAll (cs : List Condition) : removals (noticesOfAll cs) = [] := by
  match cs with
  | [] => simp [noticesOfAll, removals]
  | c :: rest =>
      rw [noticesOfAll, removals_append, removals_notices c, removals_noticesOfAll rest]
      rfl

end

end Condition

namespace Conditions

variable {conditions others : Conditions} {pending waiting : List String}

theorem removals_noticesOf (conditions : Conditions) (pending : List String) :
    removals (conditions.noticesOf pending) = [] := by
  induction conditions with
  | nil => rfl
  | cons entry rest ih =>
      show removals ((if pending.contains entry.1 then entry.2.notices else []) ++
        noticesOf rest pending) = []
      rw [removals_append, ih, List.append_nil]
      split
      · exact entry.2.removals_notices
      · rfl

theorem affectedBy_same (rearranged : conditions.Rearranged others)
    (same : Names.Same pending waiting) :
    Names.Same (conditions.affectedBy pending) (others.affectedBy waiting) := by
  intro name
  simp only [mem_affectedBy, rearranged.perm.mem_iff, same _]

/-- The map with the entry of a conditional field evaluated again. -/
def evaluate (conditions : Conditions) (values : Entries Value) (map : Visibility)
    (name : String) : Visibility :=
  match conditions.get? name with
  | some c => map.put name (c.holds values)
  | none => map

def evaluateEach (conditions : Conditions) (order : List String) (values : Entries Value)
    (map : Visibility) : Visibility :=
  order.foldl (conditions.evaluate values) map

theorem get?_evaluate (conditions : Conditions) (values : Entries Value) (map : Visibility)
    (first name : String) : Entries.get? (conditions.evaluate values map first) name =
      match conditions.get? name with
      | some c => if first = name then some (c.holds values) else map.get? name
      | none => map.get? name := by
  unfold evaluate
  by_cases same : first = name
  · subst same
    cases conditions.get? first <;> simp [Entries.get?_put]
  · cases conditions.get? first <;> cases conditions.get? name <;> simp [Entries.get?_put, same]

theorem nodup_evaluate {map : Visibility} (distinct : map.names.Nodup) (conditions : Conditions)
    (values : Entries Value) (name : String) :
    (Entries.names (conditions.evaluate values map name)).Nodup := by
  unfold evaluate
  split
  · exact Entries.nodup_put distinct _ _
  · exact distinct

theorem get?_evaluateEach (conditions : Conditions) (order : List String)
    (values : Entries Value) (map : Visibility) (name : String) :
    Entries.get? (conditions.evaluateEach order values map) name =
      match conditions.get? name with
      | some c => if name ∈ order then some (c.holds values) else map.get? name
      | none => map.get? name := by
  induction order generalizing map with
  | nil => cases conditions.get? name <;> rfl
  | cons first rest ih =>
      show Entries.get? (conditions.evaluateEach rest values _) name = _
      rw [ih, get?_evaluate]
      cases conditions.get? name with
      | none => rfl
      | some c =>
          by_cases same : first = name
          · simp [same]
          · simp [same, Ne.symm same]

theorem nodup_evaluateEach {map : Visibility} (distinct : map.names.Nodup)
    (conditions : Conditions) (order : List String) (values : Entries Value) :
    (Entries.names (conditions.evaluateEach order values map)).Nodup := by
  induction order generalizing map with
  | nil => exact distinct
  | cons first rest ih => exact ih (nodup_evaluate distinct conditions values first)

theorem evaluateEach_rearranged {map map' : Visibility} (rearranged : conditions.Rearranged others)
    (maps : map.Rearranged map')
    (same : Names.Same (pending.filter conditions.has) (waiting.filter others.has))
    (values : Entries Value) :
    Entries.Rearranged (conditions.evaluateEach pending values map)
      (others.evaluateEach waiting values map') := by
  apply Entries.Rearranged.of_get?
  · exact nodup_evaluateEach maps.distinct _ _ _
  · exact nodup_evaluateEach maps.distinct' _ _ _
  · intro name
    rw [get?_evaluateEach, get?_evaluateEach, rearranged.get?, maps.get?]
    have listed := same name
    simp only [List.mem_filter, Entries.has, rearranged.get?] at listed
    cases has : others.get? name with
    | none => rfl
    | some c => simp_all

theorem reevaluate_eq_evaluateEach (distinct : conditions.names.Nodup) (pending : List String)
    (values : Entries Value) (map : Visibility) :
    conditions.reevaluate pending values map =
      conditions.evaluateEach (conditions.names.filter pending.contains) values map := by
  have suffix (rest : Conditions) (within : ∀ entry ∈ rest, entry ∈ conditions)
      (map : Visibility) : rest.reevaluate pending values map =
        conditions.evaluateEach (rest.names.filter pending.contains) values map := by
    induction rest generalizing map with
    | nil => rfl
    | cons entry rest ih =>
        have has := Entries.get?_of_mem distinct (within entry List.mem_cons_self)
        have later := ih fun other member => within other (List.mem_cons_of_mem _ member)
        have evaluated : conditions.evaluate values map entry.1 =
            map.put entry.1 (entry.2.holds values) := by
          simp [evaluate, has]
        show reevaluate rest pending values (if pending.contains entry.1 then _ else map) = _
        rw [later, Entries.names, Entries.names, List.map_cons, List.filter_cons]
        split
        · rw [evaluateEach, evaluateEach, List.foldl_cons, evaluated]
        · rfl
  exact suffix conditions (fun _ => id) map

end Conditions

namespace Visibility

variable {map other previous before : Visibility}

theorem hidden_perm (perm : map.Perm other) : map.hidden.Perm other.hidden :=
  (perm.filter _).map _

theorem flipped_perm (perm : map.Perm other)
    (same : ∀ name, previous.get? name = before.get? name) :
    (map.flipped previous).Perm (other.flipped before) := by
  simp only [flipped, same]
  exact (perm.filter _).map _

end Visibility

namespace Cycle

variable {conditions others : Conditions} {cycle other : Cycle}

/-- Two cycles that differ only in orders. -/
structure Mirrors (cycle other : Cycle) : Prop where
  map : cycle.map.Rearranged other.map
  values : cycle.values = other.values
  pending : Names.Same cycle.pending other.pending
  cleared : Names.Same cycle.cleared other.cleared
  removals : removals cycle.notices = removals other.notices

/-- What a pass may come to when it goes through its sets in any order: through what is pending,
    what is to be removed, and what reads one of the removed values. -/
inductive PassesInto (conditions : Conditions) (cycle : Cycle) : Cycle → Prop where
  | pass {order removed pending : List String} {reported : List Notice}
      (evaluated : Names.Same (order.filter conditions.has) (cycle.pending.filter conditions.has))
      (hidden : removed.Perm ((Visibility.hidden
        (conditions.evaluateEach order cycle.values cycle.map)).filter cycle.values.has))
      (affected : Names.Same pending (conditions.affectedBy removed))
      (silent : removals reported = []) :
      PassesInto conditions cycle
        { map := conditions.evaluateEach order cycle.values cycle.map
          values := cycle.values.dropAll removed
          pending
          cleared := cycle.cleared ++ removed
          notices := cycle.notices ++ reported
            ++ if removed.isEmpty then [] else [.clearedValues (Names.sorted removed)] }

/-- What passes may come to until nothing is pending, each of them in orders of its own, where there
    are no more than a number of them. -/
inductive SettlesInto (conditions : Conditions) : Nat → Cycle → Cycle → Prop where
  | exhausted (cycle : Cycle) : SettlesInto conditions 0 cycle cycle
  | done (limit : Nat) {cycle : Cycle} (idle : cycle.pending = []) :
      SettlesInto conditions (limit + 1) cycle cycle
  | pass {limit : Nat} {cycle between later : Cycle} (busy : cycle.pending ≠ [])
      (passes : cycle.PassesInto conditions between)
      (rest : SettlesInto conditions limit between later) :
      SettlesInto conditions (limit + 1) cycle later

/-- A pass as it is made goes through what is pending in the order of the conditions. -/
theorem pass_passesInto (distinct : conditions.names.Nodup) (cycle : Cycle) :
    cycle.PassesInto conditions (cycle.pass conditions) := by
  have evaluated := Conditions.reevaluate_eq_evaluateEach distinct cycle.pending cycle.values
    cycle.map
  unfold Cycle.pass
  simp only [evaluated]
  refine .pass ?_ (.refl _) (fun _ => Iff.rfl) (Conditions.removals_noticesOf _ _)
  intro name
  simp [Entries.has, Entries.get?_isSome_iff, and_comm]

theorem passes_settlesInto (distinct : conditions.names.Nodup) (limit : Nat) (cycle : Cycle) :
    SettlesInto conditions limit cycle (cycle.passes conditions limit) := by
  induction limit generalizing cycle with
  | zero => exact .exhausted cycle
  | succ limit ih =>
      rw [passes]
      split
      next idle => exact .done limit (List.isEmpty_iff.mp idle)
      next busy => exact .pass (by simpa using busy) (pass_passesInto distinct cycle) (ih _)

theorem Mirrors.idle (mirrors : cycle.Mirrors other) : cycle.pending = [] ↔ other.pending = [] := by
  rw [← List.isEmpty_iff, ← List.isEmpty_iff, mirrors.pending.isEmpty]

/-- In whatever orders two passes go through their sets, the cycles differ only in orders after. -/
theorem Mirrors.pass {later later' : Cycle} (mirrors : cycle.Mirrors other)
    (rearranged : conditions.Rearranged others) (passes : cycle.PassesInto conditions later)
    (passes' : other.PassesInto others later') : later.Mirrors later' := by
  cases passes with
  | @pass order removed pending reported evaluated hidden affected silent =>
  cases passes' with
  | @pass order' removed' pending' reported' evaluated' hidden' affected' silent' =>
  have due : Names.Same (order.filter conditions.has) (order'.filter others.has) := by
    intro name
    have known : conditions.has name = others.has name := by
      rw [Entries.has, Entries.has, rearranged.get?]
    rw [evaluated name, evaluated' name]
    simp only [List.mem_filter, mirrors.pending name, known]
  have maps := Conditions.evaluateEach_rearranged rearranged mirrors.map due cycle.values
  have gone : removed.Perm removed' := by
    refine hidden.trans (.trans ?_ hidden'.symm)
    rw [← mirrors.values]
    exact (Visibility.hidden_perm maps.perm).filter _
  refine ⟨mirrors.values ▸ maps, ?_, ?_, ?_, ?_⟩
  · show cycle.values.dropAll removed = other.values.dropAll removed'
    rw [← mirrors.values, Entries.dropAll_congr (.of_perm gone)]
  · intro name
    rw [affected name, affected' name]
    exact Conditions.affectedBy_same rearranged (.of_perm gone) name
  · exact mirrors.cleared.append (.of_perm gone)
  · simp only [removals_append, mirrors.removals, silent, silent', Names.sorted_eq_of_perm gone,
      (Names.Same.of_perm gone).isEmpty]

theorem Mirrors.settlesInto {limit : Nat} {later later' : Cycle} (mirrors : cycle.Mirrors other)
    (rearranged : conditions.Rearranged others) (settles : SettlesInto conditions limit cycle later)
    (settles' : SettlesInto others limit other later') : later.Mirrors later' := by
  induction settles generalizing other with
  | exhausted cycle =>
      cases settles'
      exact mirrors
  | done limit idle =>
      cases settles' with
      | done => exact mirrors
      | pass busy => exact absurd (mirrors.idle.mp idle) busy
  | pass busy passes rest ih =>
      cases settles' with
      | done _ idle => exact absurd (mirrors.idle.mpr idle) busy
      | pass _ passes' rest' => exact ih (mirrors.pass rearranged passes passes') rest'

theorem Mirrors.settle (mirrors : cycle.Mirrors other)
    (rearranged : conditions.Rearranged others) :
    (cycle.settle conditions).Mirrors (other.settle others) := by
  have settles := passes_settlesInto rearranged.distinct (conditions.length + 1) cycle
  have settles' := passes_settlesInto rearranged.distinct' (conditions.length + 1) other
  have limit : conditions.length = others.length := rearranged.perm.length_eq
  rw [Cycle.settle, Cycle.settle, ← limit]
  exact mirrors.settlesInto rearranged settles settles'

end Cycle

/-! ## Trackers -/

/-- Fields among which each name stands for the same one, as it does in any order of them where
    names do not repeat. -/
def Field.SameByName (fields others : List Field) : Prop :=
  ∀ name, last? fields name = last? others name

theorem Field.sameByName_of_perm {fields others : List Field}
    (unique : (fields.map (·.name)).Nodup) (perm : fields.Perm others) :
    SameByName fields others := by
  have unique' := (perm.map (·.name)).nodup_iff.mp unique
  intro name
  ext field
  constructor
  · intro found
    obtain rfl := name_of_last? found
    exact last?_of_mem unique' (perm.mem_iff.mp (mem_of_last? found))
  · intro found
    obtain rfl := name_of_last? found
    exact last?_of_mem unique (perm.mem_iff.mpr (mem_of_last? found))

namespace Tracker

variable {tracker other : Tracker}

/-- Two trackers that differ only in orders. -/
structure Mirrors (tracker other : Tracker) : Prop where
  store : tracker.store = other.store
  conditions : tracker.conditions.Rearranged other.conditions
  map : tracker.map.Rearranged other.map
  listeners : tracker.listeners = other.listeners
  isActive : tracker.isActive = other.isActive
  isAnnouncing : tracker.isAnnouncing = other.isAnnouncing

theorem Mirrors.refl (conditions : tracker.conditions.names.Nodup)
    (map : tracker.map.names.Nodup) : tracker.Mirrors tracker :=
  ⟨rfl, ⟨conditions, .refl _⟩, ⟨map, .refl _⟩, rfl, rfl, rfl⟩

theorem ofFields_mirrors {fields others : List Field} (same : Field.SameByName fields others)
    (store : Nat) : (ofFields store fields).Mirrors (ofFields store others) := by
  have declared (name : String) : name ∈ fields.map (·.name) ↔ name ∈ others.map (·.name) := by
    rw [← Field.last?_isSome_iff, ← Field.last?_isSome_iff, same]
  refine ⟨rfl, ?_, ?_, rfl, rfl, rfl⟩
  · apply Entries.Rearranged.of_get? (Conditions.nodup_ofFields _) (Conditions.nodup_ofFields _)
    intro name
    rw [Conditions.get?_ofFields, Conditions.get?_ofFields, same]
  · apply Entries.Rearranged.of_get? (Entries.nodup_ofList _) (Entries.nodup_ofList _)
    intro name
    show (Visibility.all fields).get? name = (Visibility.all others).get? name
    simp only [Visibility.get?_all, declared]

theorem Mirrors.isVisible (mirrors : tracker.Mirrors other) (name : String) :
    tracker.isVisible name = other.isVisible name := by
  simp only [Tracker.isVisible, isShown, Option.bind_some, mirrors.map.get?]

theorem Mirrors.watched (mirrors : tracker.Mirrors other) :
    Names.Same tracker.conditions.watched other.conditions.watched :=
  .distinct (.of_perm (mirrors.conditions.perm.flatMap_right _))

theorem Mirrors.reactsTo {names others : List String} (mirrors : tracker.Mirrors other)
    (same : Names.Same names others) :
    Names.Same (tracker.reactsTo names) (other.reactsTo others) := by
  unfold Tracker.reactsTo
  rw [mirrors.isAnnouncing]
  split
  · exact fun _ => Iff.rfl
  · exact Conditions.affectedBy_same mirrors.conditions same

theorem Mirrors.cycle {affected others : List String} (mirrors : tracker.Mirrors other)
    (same : Names.Same affected others) (values : Entries Value) :
    (tracker.cycle affected values).Mirrors (other.cycle others values) :=
  Cycle.Mirrors.settle ⟨mirrors.map, rfl, same, fun _ => Iff.rfl, rfl⟩ mirrors.conditions

/-- What a cycle may come to that goes through its sets in any order, in each pass anew. -/
def CyclesInto (tracker : Tracker) (affected : List String) (values : Entries Value)
    (later : Cycle) : Prop :=
  Cycle.SettlesInto tracker.conditions (tracker.conditions.length + 1)
    { map := tracker.map, values, pending := affected } later

/-- In whichever orders the cycles of the second tracker go through their sets, they come to what
    those of the first one come to. -/
def SameCycles (tracker other : Tracker) : Prop :=
  ∀ affected others values later, Names.Same affected others →
    other.CyclesInto others values later → (tracker.cycle affected values).Mirrors later

theorem Mirrors.sameCycles (mirrors : tracker.Mirrors other) : tracker.SameCycles other := by
  intro affected others values later same into
  have begun : Cycle.Mirrors { map := tracker.map, values, pending := affected }
      { map := other.map, values, pending := others } :=
    ⟨mirrors.map, rfl, same, fun _ => Iff.rfl, rfl⟩
  have limit : tracker.conditions.length = other.conditions.length :=
    mirrors.conditions.perm.length_eq
  rw [CyclesInto, ← limit] at into
  exact begun.settlesInto mirrors.conditions
    (Cycle.passes_settlesInto mirrors.conditions.distinct _ _) into

end Tracker

end Formwork
