import Formwork.Condition.Document
import Formwork.Proofs.Condition.Leaves
import Formwork.Proofs.Condition.Reading
import Formwork.Proofs.Reading

/-! # Conditions as documents

A condition is read back from its document, but null for the older form of equality reads as if
it had been given. So a document that leaves it out where it was not given means what the
condition means, and a full document means something else wherever a leaf compares otherwise
than for equality with null.
-/

namespace Formwork

@[simp] theorem Reader.optional_string (text : Option String) :
    Reader.optional Reader.string (text.elim .null .str) = .read text := by
  cases text <;> rfl

namespace Condition

/-- The older form of equality that is read back from a document. -/
def equalsBack (full : Bool) (equals : Option Value) : Option Value :=
  if full then some (equals.getD .null) else equals

section Back

variable {scheme : ReadingScheme}

mutual

theorem readBy_toDocument (lawful : scheme.Lawful) (full : Bool) : ∀ c : Condition,
    readBy scheme (c.toDocument full) = .read (c.mapEquals (equalsBack full))
  | ⟨field, operator, value, equals, conditions, combinator⟩ => by
      have children := ofList_childrenToDocument lawful full conditions
      cases equals <;> cases full <;>
        simp [toDocument, equalsEntry, readBy, assemble, childrenOf, children, Key.optional,
          Key.withDefault, lawful.found, Key.plain, combinatorKey, Entries.has,
          Entries.get?, Reader.any, mapEquals, equalsBack]

theorem ofList_childrenToDocument (lawful : scheme.Lawful) (full : Bool) :
    ∀ conditions : Option (List Condition),
      ofList scheme (childrenToDocument full conditions) =
        .read (mapChildren (equalsBack full) conditions)
  | none => rfl
  | some children => by
      rw [childrenToDocument, ofList, ofItems_itemsToDocuments lawful full 0 children]
      rfl

theorem ofItems_itemsToDocuments (lawful : scheme.Lawful) (full : Bool) (index : Nat) :
    ∀ children : List Condition,
      ofItems scheme index (itemsToDocuments full children) =
        .read (mapItems (equalsBack full) children)
  | [] => rfl
  | child :: rest => by
      simp [itemsToDocuments, ofItems, readBy_toDocument lawful full child,
        ofItems_itemsToDocuments lawful full (index + 1) rest, mapItems]

end

end Back

theorem holdsIn_toDocument (full : Bool) (values : Entries Value) (c : Condition) :
    holdsIn values (c.toDocument full) = (c.mapEquals (equalsBack full)).holds values := by
  have back : ofValue (c.toDocument full) = .read (c.mapEquals (equalsBack full)) :=
    readBy_toDocument ReadingScheme.standard_lawful full c
  cases c
  simp only [toDocument] at back ⊢
  simp only [holdsIn, back]

/-! ## What null for the older form of equality does -/

/-- It makes no difference to a leaf whether it has null for the older form of equality or none:
    it reads no field, or was given that form, or compares for equality with null anyway. -/
def Explicit (leaf : Condition) : Prop :=
  leaf.leafField = [] ∨ leaf.equals.isSome = true ∨
    Comparison.named leaf.operator = .equal ∧ leaf.value = .null

variable {leaf : Condition}

theorem Explicit.leafHolds (explicit : leaf.Explicit) (values : Entries Value) :
    leafHolds values { leaf with equals := equalsBack true leaf.equals } =
      leafHolds values leaf := by
  have same : ({ leaf with equals := equalsBack true leaf.equals } : Condition).leafField =
      leaf.leafField := rfl
  cases read : leaf.leafField with
  | nil => rw [leafHolds_unread (same.trans read), leafHolds_unread read]
  | cons name rest =>
      rw [leafHolds_reads (same.trans read), leafHolds_reads read]
      rcases explicit with unread | given | ⟨equal, null⟩
      · rw [unread] at read
        cases read
      · obtain ⟨expected, given⟩ := Option.isSome_iff_exists.mp given
        simp only [accepts, given, equalsBack, if_true, Option.getD_some]
      · cases given : leaf.equals <;>
          simp [accepts, given, equalsBack, equal, null, Comparison.holds]

end Condition

namespace Value

theorem strictlySame_null (value : Value) : value.strictlySame .null = (value.kind == .null) := by
  cases value <;> simp [strictlySame, same, sameNumber, position?, kind]

theorem null_strictlySame (value : Value) :
    Value.null.strictlySame value = (value.kind == .null) := by
  cases value <;> simp [strictlySame, same, sameNumber, position?, kind]

end Value

theorem Comparison.exists_ne_null {comparison : Comparison} {target : Value}
    (other : ¬(comparison = .equal ∧ target = .null)) :
    ∃ current : Value, current.strictlySame .null ≠ comparison.holds current target := by
  simp only [Value.strictlySame_null]
  cases comparison with
  | equal =>
      refine ⟨.null, ?_⟩
      cases target <;> simp_all [Comparison.holds, Value.null_strictlySame, Value.kind]
  | unequal =>
      -- What is unequal to null is to be compared with something else than null itself.
      cases target with
      | null => exact ⟨.null, by rintro ⟨⟩⟩
      | bool b => exact ⟨.str "", by rintro ⟨⟩⟩
      | _ => exact ⟨.bool true, by rintro ⟨⟩⟩
  | greater | less =>
      exact ⟨.null, by simp [Comparison.holds, Value.numberBelow, Value.isNumber, Value.kind]⟩
  | contains => exact ⟨.null, by rintro ⟨⟩⟩
  | lacks => exact ⟨.null, by rintro ⟨⟩⟩
  | empty => exact ⟨.str "", by rintro ⟨⟩⟩
  | filled => exact ⟨.null, by rintro ⟨⟩⟩

namespace Condition

variable {leaf : Condition}

/-- A leaf to which null for the older form of equality makes a difference differs from its full
    document on a snapshot with one value. -/
theorem exists_holdsIn_ne (simple : leaf.isCompound = false) (other : ¬leaf.Explicit) :
    ∃ values, holdsIn values (leaf.toDocument true) ≠ leaf.holds values := by
  simp only [Explicit, not_or, Option.not_isSome_iff_eq_none] at other
  obtain ⟨reading, absent, unequal⟩ := other
  obtain ⟨current, differs⟩ := Comparison.exists_ne_null unequal
  obtain ⟨name, rest, read⟩ := List.exists_cons_of_ne_nil reading
  refine ⟨[(name, current)], ?_⟩
  have same : ({ leaf with equals := equalsBack true leaf.equals } : Condition).leafField =
      leaf.leafField := rfl
  have simple' : ({ leaf with equals := equalsBack true leaf.equals } : Condition).isCompound =
      false := simple
  rw [holdsIn_toDocument, mapEquals_of_not_compound simple, holds_of_not_compound simple',
    holds_of_not_compound simple, leafHolds_reads (same.trans read), leafHolds_reads read]
  simpa [accepts, equalsBack, absent, Entries.value, Entries.get?] using differs

/-- What the documents of a condition mean. The one that leaves out the older form of equality
    where it was not given means what the condition means. The full one means the condition with
    null for it, which is the same where that makes no difference to a leaf; and where it makes
    one, it does so on some snapshot. -/
theorem documents_mean (c : Condition) :
    (∀ values, holdsIn values (c.toDocument false) = c.holds values) ∧
      (∀ values, holdsIn values (c.toDocument true) =
        (c.mapEquals fun equals => some (equals.getD .null)).holds values) ∧
      ((∀ leaf ∈ c.leaves, leaf.Explicit) →
        ∀ values, holdsIn values (c.toDocument true) = c.holds values) ∧
      ∀ leaf ∈ c.leaves, ¬leaf.Explicit →
        ∃ values, holdsIn values (leaf.toDocument true) ≠ leaf.holds values := by
  refine ⟨fun values => ?_, fun values => ?_, fun explicit values => ?_,
    fun leaf member other => ?_⟩
  · rw [holdsIn_toDocument]
    exact congrArg (holds values) (mapEquals_id c)
  · exact holdsIn_toDocument true values c
  · rw [holdsIn_toDocument]
    exact holds_mapEquals c fun leaf member => (explicit leaf member).leafHolds values
  · exact exists_holdsIn_ne (isCompound_of_mem_leaves c member) other

def petIsYes : Condition :=
  { field := some "pet", operator := none, value := .str "yes", equals := none, conditions := none
    combinator := none }

theorem petIsYes_full_document_differs :
    ¬∀ (c : Condition) (values : Entries Value),
      holdsIn values (c.toDocument true) = c.holds values :=
  fun same => absurd (same petIsYes [("pet", .str "yes")]) (by decide +kernel)

end Condition

end Formwork
