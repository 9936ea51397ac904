import Formwork.Value.Basic

/-! # Equality of values

Two notions. `same` compares numbers by size alone, so that one, `1.0` and true are
the same, also inside lists and objects; the order of an object's entries does not
matter, and nan is the same as nothing. `strictlySame` tells a boolean from a number
at the top, but not deeper down.
-/

namespace Formwork.Value

/-- Numbers and booleans at the same place on the line of units. -/
def sameNumber (left right : Value) : Bool :=
  match left.position?, right.position? with
  | some a, some b => a == b
  | _, _ => false

mutual

/-- Equality by size and content. -/
def same : Value → Value → Bool
  | .null, .null => true
  | .str s, .str t => s == t
  | .list items, .list others => sameItems items others
  | .object entries, .object others =>
      entries.length == others.length && sameEntries entries others
  | left, right => sameNumber left right

/-- Lists of the same items, one by one. -/
def sameItems : List Value → List Value → Bool
  | [], [] => true
  | item :: items, other :: others => same item other && sameItems items others
  | _, _ => false

/-- Entries that all have the same value in another object. -/
def sameEntries : List (String × Value) → List (String × Value) → Bool
  | [], _ => true
  | (name, value) :: rest, others => match Entries.get? others name with
      | some other => same value other && sameEntries rest others
      | none => false

end

/-- Equality that tells booleans from numbers, though only at the top. -/
def strictlySame (left right : Value) : Bool :=
  (left.kind == .bool) == (right.kind == .bool) && same left right

/-- Whether writing `new` over `old` is a change: another kind of value, or a value that
    is not the same. -/
def differs (old new : Value) : Bool :=
  old.kind != new.kind || !same old new

end Formwork.Value
