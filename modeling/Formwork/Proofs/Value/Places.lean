import Formwork.Condition.Evaluation
import Formwork.Proofs.Value.Equality
import Formwork.Reading

/-! # Booleans in the place of numbers

A comparison tells a boolean from a number where these are what it compares. Inside of lists and
objects it does not: at every place in them true passes for one, and false for zero.
-/

namespace Formwork

namespace Value

variable {left right a : Value} {items others : List Value}

def part? : Value → DocumentStep → Option Value
  | .list items, .index n => items[n]?
  | .object entries, .name name => Entries.get? entries name
  | _, _ => none

def at? : Value → List DocumentStep → Option Value
  | value, [] => some value
  | value, step :: rest => (value.part? step).bind (at? · rest)

/-- Of two values the one is a boolean and the other a number. -/
def Clash (left right : Value) : Prop :=
  left.kind = .bool ∧ right.isNumber = true ∨ left.isNumber = true ∧ right.kind = .bool

instance (left right : Value) : Decidable (Clash left right) :=
  inferInstanceAs (Decidable (_ ∨ _))

/-! ## Place by place -/

theorem sameItems_iff :
    sameItems items others = true ↔ List.Forall₂ (fun item other => same item other = true)
      items others := by
  induction items generalizing others with
  | nil => cases others <;> simp [sameItems]
  | cons item items ih => cases others <;> simp [sameItems, ih]

theorem same_of_getElem? (alike : sameItems items others = true) {n : Nat}
    (found : items[n]? = some a) : ∃ b, others[n]? = some b ∧ same a b = true := by
  rw [sameItems_iff, List.forall₂_iff_get] at alike
  obtain ⟨within, rfl⟩ := List.getElem?_eq_some_iff.mp found
  have within' := alike.1 ▸ within
  exact ⟨others[n], List.getElem?_eq_getElem within', alike.2 n within within'⟩

theorem same_of_get? {entries more : List (String × Value)}
    (alike : sameEntries entries more = true) {name : String}
    (found : Entries.get? entries name = some a) :
    ∃ b, Entries.get? more name = some b ∧ same a b = true :=
  sameEntries_iff.mp alike _ (Entries.mem_of_get? found)

theorem same_of_part? {step : DocumentStep} (alike : same left right = true)
    (found : left.part? step = some a) : ∃ b, right.part? step = some b ∧ same a b = true := by
  cases same_iff.mp alike with
  | null | str => cases found
  | number hl => cases left <;> first | cases found | cases hl
  | list each =>
      cases step with
      | name name => cases found
      | index n => exact same_of_getElem? each found
  | object size each =>
      cases step with
      | index n => cases found
      | name name => exact same_of_get? each found

theorem same_of_at? {place : List DocumentStep} (alike : same left right = true)
    (found : left.at? place = some a) : ∃ b, right.at? place = some b ∧ same a b = true := by
  induction place generalizing left right with
  | nil =>
      cases found
      exact ⟨right, rfl, alike⟩
  | cons step rest ih =>
      obtain ⟨part, has, found⟩ := Option.bind_eq_some_iff.mp found
      obtain ⟨other, has', alike⟩ := same_of_part? alike has
      obtain ⟨b, found', alike⟩ := ih alike found
      exact ⟨b, Option.bind_eq_some_iff.mpr ⟨other, has', found'⟩, alike⟩

/-! ## Booleans counted as numbers -/

mutual

/-- The value with one and zero for true and false, at every depth. -/
def numbered : Value → Value
  | .bool b => .int (if b then 1 else 0)
  | .list items => .list (numberedItems items)
  | .object entries => .object (numberedEntries entries)
  | value => value

def numberedItems : List Value → List Value
  | [] => []
  | item :: rest => numbered item :: numberedItems rest

def numberedEntries : List (String × Value) → List (String × Value)
  | [] => []
  | (name, value) :: rest => (name, numbered value) :: numberedEntries rest

end

theorem length_numberedEntries (entries : List (String × Value)) :
    (numberedEntries entries).length = entries.length := by
  induction entries with
  | nil => rfl
  | cons entry rest ih => rw [numberedEntries, List.length_cons, ih, List.length_cons]

theorem get?_numberedEntries (entries : List (String × Value)) (name : String) :
    Entries.get? (numberedEntries entries) name = (Entries.get? entries name).map numbered := by
  induction entries with
  | nil => rfl
  | cons entry rest ih =>
      rw [numberedEntries, Entries.get?, Entries.get?, ih]
      split <;> rfl

mutual

theorem same_numbered : ∀ left right : Value, same left.numbered right.numbered = same left right
  | .list items, right => by
      cases right <;> try rfl
      exact sameItems_numbered items _
  | .object entries, right => by
      cases right <;> try rfl
      rw [numbered, numbered, same, same, length_numberedEntries, length_numberedEntries,
        sameEntries_numbered entries]
  | .null, right | .str _, right | .bool _, right | .int _, right | .float _, right => by
      cases right <;> rfl

theorem sameItems_numbered : ∀ items others : List Value,
    sameItems (numberedItems items) (numberedItems others) = sameItems items others
  | [], others => by cases others <;> rfl
  | item :: items, [] => rfl
  | item :: items, other :: others => by
      rw [numberedItems, numberedItems, sameItems, sameItems, same_numbered item,
        sameItems_numbered items]

theorem sameEntries_numbered : ∀ entries others : List (String × Value),
    sameEntries (numberedEntries entries) (numberedEntries others) = sameEntries entries others
  | [], _ => rfl
  | (name, value) :: rest, others => by
      rw [numberedEntries, sameEntries, sameEntries, get?_numberedEntries]
      cases Entries.get? others name with
      | none => rfl
      | some other =>
          exact congrArg₂ (· && ·) (same_numbered value other) (sameEntries_numbered rest others)

end

/-! ## What a comparison tells apart -/

theorem kind_of_position? {place : Position} (number : left.position? = some place) :
    left.kind = .bool ∨ left.isNumber = true := by
  cases left with
  | bool b => exact .inl rfl
  | int n | float x => exact .inr rfl
  | null | str | list | object => cases number

theorem kind_ne_of_isNumber (number : left.isNumber = true) : left.kind ≠ .bool := by
  cases left with
  | int n | float x => exact ValueKind.noConfusion
  | null | bool | str | list | object => cases number

theorem kinds_iff_of_same (alike : same left right = true) :
    (left.kind == .bool) = (right.kind == .bool) ↔ ¬left.Clash right := by
  cases same_iff.mp alike with
  | null | str | list | object => simp [Clash, kind, isNumber]
  | number hl hr =>
      have ofLeft := kind_of_position? hl
      have ofRight := kind_of_position? hr
      grind [Clash, kind_ne_of_isNumber]

theorem strictlySame_iff : left.strictlySame right = true ↔
    ¬left.Clash right ∧ left.numbered.same right.numbered = true := by
  rw [strictlySame, Bool.and_eq_true, beq_iff_eq, same_numbered]
  exact and_congr_left kinds_iff_of_same

/-- Two values that are told apart only where they are compared themselves: at every place in the
    one, the other has the same, and there may be a clash at all places but the outermost. -/
def AgreeInside (left right : Value) : Prop :=
  ∀ place a, left.at? place = some a →
    ∃ b, right.at? place = some b ∧ same a b = true ∧ (a.Clash b → place ≠ [])

theorem agreeInside_of_strictlySame (alike : left.strictlySame right = true) :
    AgreeInside left right := by
  intro place a found
  have apart := (strictlySame_iff.mp alike).1
  obtain ⟨b, found', alike⟩ := same_of_at? (Bool.and_eq_true_iff.mp alike).2 found
  refine ⟨b, found', alike, ?_⟩
  rintro clash rfl
  cases found
  cases found'
  exact apart clash

end Value

namespace Comparison

open Value

/-- Comparing for equality, and looking for an item of a list, keep booleans and numbers apart
    where these are compared themselves, and do not tell them apart inside of what is compared. -/
theorem outermost_apart (current target : Value) :
    (equal.holds current target = true ↔
        ¬current.Clash target ∧ current.numbered.same target.numbered = true) ∧
      (unequal.holds current target = false ↔
        ¬current.Clash target ∧ current.numbered.same target.numbered = true) ∧
      (∀ items, contains.holds (.list items) target = true ↔
        ∃ item ∈ items, ¬item.Clash target ∧ item.numbered.same target.numbered = true) ∧
      (¬current.Clash target → current.numbered.same target.numbered = true →
        current.AgreeInside target) := by
  refine ⟨strictlySame_iff, ?_, fun items => ?_, fun apart alike => ?_⟩
  · rw [← strictlySame_iff, holds, Bool.not_eq_false']
  · simp only [holds, containment?, Option.getD_some, List.any_eq_true, strictlySame_iff]
  · exact agreeInside_of_strictlySame (strictlySame_iff.mpr ⟨apart, alike⟩)

/-- True in a list, compared with the number one in a list. -/
theorem listedTrue_apart :
    ¬(Value.list [.bool true]).Clash (.list [.int 1]) ∧
      (Value.list [.bool true]).numbered.same (Value.list [.int 1]).numbered = true ∧
      equal.holds (.list [.bool true]) (.list [.int 1]) = true ∧
      (Value.list [.bool true]).AgreeInside (.list [.int 1]) := by
  have apart : ¬(Value.list [.bool true]).Clash (.list [.int 1]) := by decide
  have alike : (Value.list [.bool true]).numbered.same (Value.list [.int 1]).numbered = true := by
    decide +kernel
  have outermost := outermost_apart (.list [.bool true]) (.list [.int 1])
  exact ⟨apart, alike, outermost.1.mpr ⟨apart, alike⟩, outermost.2.2.2 apart alike⟩

theorem listedTrue_clashes :
    ¬∀ left right : Value, left.strictlySame right = true →
      ∀ place a b, left.at? place = some a → right.at? place = some b → ¬a.Clash b := by
  intro apart
  refine apart (.list [.bool true]) (.list [.int 1]) ?_ [.index 0] (.bool true) (.int 1) rfl rfl ?_
  · decide +kernel
  · decide

end Comparison

end Formwork
