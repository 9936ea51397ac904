import Formwork.Proofs.Condition.Reading
import Formwork.Store

/-! # Writes that are no change

A write that a store does not tell of leaves a value that is the same as before. Conditions see
more of a value than that only where they search a list: there a boolean and its number are two
items, but lists are the same whichever of them they hold. So what can escape a condition is
whether a list holds true, false, one or zero, and nothing else.
-/

namespace Formwork

namespace Value

/-- The items that a list of the same items may not hold: booleans and their numbers. -/
def bits : List Value := [.bool false, .bool true, .int 0, .int 1]

variable {item other target bit : Value}

theorem same_of_position? {place : Position} (h : target.position? = some place) :
    item.same target = (item.position? == some place) := by
  rw [Bool.eq_iff_iff, same_iff, beq_iff_eq]
  constructor
  · intro shape
    cases shape with
    | number hl hr => rw [hl, ← hr, h]
    | _ => cases h
  · intro found
    exact .number found h

/-- To search a list for a number or a boolean is to search it for any that is strictly the
    same. -/
theorem strictlySame_of_strictlySame {place : Position} (h : target.strictlySame bit = true)
    (number : bit.position? = some place) (item : Value) :
    item.strictlySame target = item.strictlySame bit := by
  simp only [strictlySame, Bool.and_eq_true, beq_iff_eq] at h ⊢
  have found : target.position? = some place := by
    rw [same_of_position? number, beq_iff_eq] at h
    exact h.2
  rw [h.1, same_of_position? found, same_of_position? number]

theorem position?_of_mem_bits (h : bit ∈ bits) : ∃ place, bit.position? = some place := by
  simp only [bits, List.mem_cons, List.not_mem_nil, or_false] at h
  rcases h with rfl | rfl | rfl | rfl <;> exact ⟨_, rfl⟩

/-- What is the same as a boolean is strictly the same as that boolean or as its number. -/
theorem exists_bit {b : Bool} (h : (Value.bool b).same target = true) :
    ∃ bit ∈ bits, target.strictlySame bit = true := by
  have found : target.position? = some (Binary64.positionOfInt (if b then 1 else 0)) := by
    cases same_iff.mp h with
    | number hl hr => rw [hr, ← hl, position?]
  have number (bit : Value) (place : bit.position? = target.position?) :
      target.same bit = true := by
    rw [same_of_position? (place.trans found), found, beq_self_eq_true]
  by_cases boolean : target.kind = .bool
  · refine ⟨.bool b, by cases b <;> simp [bits], ?_⟩
    rw [strictlySame, boolean, number (.bool b) found.symm]
    rfl
  · refine ⟨.int (if b then 1 else 0), by cases b <;> simp [bits], ?_⟩
    rw [strictlySame, beq_eq_false_iff_ne.mpr boolean, number (.int _) found.symm]
    rfl

/-- Items that are the same are strictly the same as the same targets, but for booleans and
    their numbers. -/
theorem strictlySame_congr_of_no_bit (named : item.WellNamed) (named' : other.WellNamed)
    (h : item.same other = true) (none : ∀ bit ∈ bits, target.strictlySame bit = false) :
    item.strictlySame target = other.strictlySame target := by
  have same := same_congr named named' h target
  have apart : ∀ b, (Value.bool b).same target = false := by
    intro b
    rw [Bool.eq_false_iff]
    intro found
    obtain ⟨bit, member, is⟩ := exists_bit found
    rw [none bit member] at is
    cases is
  by_cases kinds : (item.kind == .bool) = (other.kind == .bool)
  · simp only [strictlySame, kinds, same]
  · -- One of the two is a boolean, and no boolean is the same as the target.
    have unequal : item.same target = false := by
      cases item with
      | bool b => exact apart b
      | _ =>
          cases other with
          | bool b => exact same.trans (apart b)
          | _ => exact absurd rfl kinds
    simp only [strictlySame, ← same, unequal, Bool.and_false]

variable {old new : Value}

theorem containment?_of_same (named : old.WellNamed) (named' : new.WellNamed)
    (h : old.same new = true)
    (bits : ∀ bit ∈ bits, target.strictlySame bit = true →
      Comparison.containment? old bit = Comparison.containment? new bit) :
    Comparison.containment? old target = Comparison.containment? new target := by
  cases same_iff.mp h with
  | @list items others h =>
      by_cases searched : ∃ bit ∈ Value.bits, target.strictlySame bit = true
      · obtain ⟨bit, member, is⟩ := searched
        obtain ⟨place, number⟩ := position?_of_mem_bits member
        simp only [Comparison.containment?, strictlySame_of_strictlySame is number]
        exact bits bit member is
      · simp only [not_exists, not_and, Bool.not_eq_true] at searched
        have named := wellNamedItems_iff.mp named
        have named' := wellNamedItems_iff.mp named'
        refine congrArg some (any_congr_of_sameItems (fun item member other member' same => ?_) h)
        exact strictlySame_congr_of_no_bit (named item member) (named' other member') same searched
  | number hl hr => rw [containment?_of_position? hl, containment?_of_position? hr]
  | _ => rfl

end Value

namespace Condition

/-- A leaf searches a field for one of the items that a list may not hold although it is the
    same as one that does. -/
structure SearchesFor (leaf : Condition) (name : String) (bit : Value) : Prop where
  reads : leaf.leafField = [name]
  unset : leaf.equals = none
  searching : Comparison.named leaf.operator = .contains ∨ Comparison.named leaf.operator = .lacks
  sought : leaf.value.strictlySame bit = true

variable {leaf : Condition} {old new : Value} {name : String}

/-- A leaf accepts what it did before a write that is no change, if it does not search for what
    the write put in the place of something else. -/
theorem accepts_of_same (named : old.WellNamed) (named' : new.WellNamed)
    (kinds : old.kind = new.kind) (h : old.same new = true) (reads : leaf.leafField = [name])
    (bits : ∀ bit ∈ Value.bits, leaf.SearchesFor name bit →
      Comparison.containment? old bit = Comparison.containment? new bit) :
    leaf.accepts old = leaf.accepts new := by
  unfold accepts
  cases unset : leaf.equals with
  | some expected => exact Value.strictlySame_congr named named' kinds h expected
  | none =>
      refine Value.holds_congr_of_same named named' kinds h _ fun searching => ?_
      exact Value.containment?_of_same named named' h fun bit member sought =>
        bits bit member ⟨reads, unset, searching, sought⟩

theorem differs_of_searchesFor {bit : Value} (member : bit ∈ Value.bits)
    (searches : leaf.SearchesFor name bit)
    (apart : Comparison.containment? old bit ≠ Comparison.containment? new bit)
    (h : old.same new = true) :
    leaf.accepts old ≠ leaf.accepts new := by
  obtain ⟨place, number⟩ := Value.position?_of_mem_bits member
  have sought := Value.strictlySame_of_strictlySame searches.sought number
  cases Value.same_iff.mp h with
  | @list items others h =>
      have apart : items.any (·.strictlySame bit) ≠ others.any (·.strictlySame bit) := by
        simpa [Comparison.containment?] using apart
      simp only [accepts, searches.unset]
      rcases searches.searching with contains | lacks
      · simpa [contains, Comparison.holds, Comparison.containment?, sought] using apart
      · simpa [lacks, Comparison.holds, Comparison.containment?, sought] using apart
  | number hl hr =>
      rw [Value.containment?_of_position? hl, Value.containment?_of_position? hr] at apart
      exact absurd rfl apart
  | _ => exact absurd rfl apart

end Condition

namespace Store

variable {store : Store} {name : String} {old new : Value}

theorem differs_eq_false_of_unheard (had : store.values.get? name = some old)
    (unheard : name ∉ store.changes [(name, new)]) : old.differs new = false := by
  rw [changes, Names.mem_distinct] at unheard
  simpa [isChange, had] using unheard

theorem value_write (store : Store) (name other : String) (new : Value) :
    (store.write [(name, new)]).values.value other =
      if name = other then new else store.values.value other := by
  simp only [Entries.value, write, Entries.putAll, List.foldl_cons, List.foldl_nil,
    Entries.get?_put]
  split <;> rfl

/-- A write that a store does not tell of makes a difference to a condition only through leaves
    that search the written list for a boolean or its number, where it held the other of the two;
    and to each of these it makes one. -/
theorem write_unheard (had : store.values.get? name = some old) (named : old.WellNamed)
    (named' : new.WellNamed) (unheard : name ∉ store.changes [(name, new)]) :
    (∀ c : Condition, (∀ leaf ∈ c.leaves, ∀ bit ∈ Value.bits, leaf.SearchesFor name bit →
        Comparison.containment? old bit = Comparison.containment? new bit) →
      c.holds store.values = c.holds (store.write [(name, new)]).values) ∧
    ∀ leaf : Condition, leaf.isCompound = false → ∀ bit ∈ Value.bits,
      leaf.SearchesFor name bit →
      Comparison.containment? old bit ≠ Comparison.containment? new bit →
      leaf.holds store.values ≠ leaf.holds (store.write [(name, new)]).values := by
  obtain ⟨kinds, same⟩ := Value.differs_eq_false_iff.mp (differs_eq_false_of_unheard had unheard)
  have before : store.values.value name = old := by rw [Entries.value, had, Option.getD_some]
  constructor
  · intro c bits
    apply Condition.holds_congr_leaves
    intro leaf member
    cases read : leaf.leafField with
    | nil => rw [Condition.leafHolds_unread read, Condition.leafHolds_unread read]
    | cons other rest =>
        rw [Condition.leafHolds_reads read, Condition.leafHolds_reads read, value_write]
        by_cases written : name = other
        · subst written
          rw [Condition.tail_of_leafField read] at read
          rw [if_pos rfl, before]
          exact Condition.accepts_of_same named named' kinds same read (bits leaf member)
        · rw [if_neg written]
  · intro leaf simple bit member searches apart
    rw [Condition.holds_of_not_compound simple, Condition.holds_of_not_compound simple,
      Condition.leafHolds_reads searches.reads, Condition.leafHolds_reads searches.reads,
      value_write, if_pos rfl, before]
    exact Condition.differs_of_searchesFor member searches apart same

def tagged (item : Value) : Store := { values := [("tags", .list [item])] }

def hasTag (item : Value) : Condition :=
  { field := some "tags", operator := some "contains", value := item, equals := none
    conditions := none, combinator := none }

theorem tagged_write_unheard :
    (hasTag (.str "dog")).holds (tagged (.int 1)).values =
        (hasTag (.str "dog")).holds
          ((tagged (.int 1)).write [("tags", .list [.bool true])]).values ∧
      (hasTag (.bool true)).holds (tagged (.int 1)).values ≠
        (hasTag (.bool true)).holds
          ((tagged (.int 1)).write [("tags", .list [.bool true])]).values := by
  have had : (tagged (.int 1)).values.get? "tags" = some (.list [.int 1]) := rfl
  have named : (Value.list [.int 1]).WellNamed := ⟨trivial, trivial⟩
  have named' : (Value.list [.bool true]).WellNamed := ⟨trivial, trivial⟩
  have written := write_unheard had named named' (by decide +kernel)
  have apart : ∀ bit ∈ Value.bits, (Value.str "dog").strictlySame bit = false := by
    decide +kernel
  refine ⟨written.1 _ ?_, written.2 _ rfl (.bool true) ?_ ⟨rfl, rfl, .inl rfl, ?_⟩ ?_⟩
  · intro leaf member bit among searches
    have sought := searches.sought
    rw [List.mem_singleton.mp member] at sought
    exact absurd (sought.symm.trans (apart bit among)) nofun
  · simp [Value.bits]
  · decide +kernel
  · decide +kernel

theorem tagged_condition_goes_stale :
    ¬∀ (store : Store) (name : String) (old new : Value) (c : Condition),
      store.values.get? name = some old → old.WellNamed → new.WellNamed →
      name ∉ store.changes [(name, new)] →
      c.holds store.values = c.holds (store.write [(name, new)]).values := by
  intro fresh
  have same := fresh (tagged (.int 1)) "tags" _ (.list [.bool true]) (hasTag (.bool true)) rfl
    ⟨trivial, trivial⟩ ⟨trivial, trivial⟩ (by decide +kernel)
  exact absurd same (by decide +kernel)

end Store

end Formwork
