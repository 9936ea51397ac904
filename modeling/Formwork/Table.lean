/-! # Numbered values

Values by number. A number that was never written reads as the default value.
-/

namespace Formwork

/-- Values by number. -/
abbrev Table (α : Type) := List (Nat × α)

namespace Table

variable {α : Type}

def read [Inhabited α] : Table α → Nat → α
  | [], _ => default
  | (key, value) :: rest, id => if key = id then value else read rest id

/-- Set the value of a number. -/
def write : Table α → Nat → α → Table α
  | [], id, value => [(id, value)]
  | (key, old) :: rest, id, value =>
      if key = id then (key, value) :: rest else (key, old) :: write rest id value

/-- A number that no value has yet. -/
def fresh (table : Table α) : Nat := table.foldl (fun next entry => max next (entry.1 + 1)) 0

theorem read_write [Inhabited α] (table : Table α) (key id : Nat) (value : α) :
    read (write table key value) id = if key = id then value else read table id := by
  induction table with
  | nil => simp [write, read]
  | cons entry rest ih =>
      grind [write, read]

theorem read_of_not_mem [Inhabited α] {table : Table α} {id : Nat}
    (absent : id ∉ table.map (·.1)) : read table id = default := by
  induction table with
  | nil => rfl
  | cons entry rest ih =>
      grind [read]

theorem mem_keys_write {table : Table α} {key id : Nat} {value : α} :
    id ∈ (write table key value).map (·.1) ↔ id = key ∨ id ∈ table.map (·.1) := by
  induction table with
  | nil => simp [write]
  | cons entry rest ih =>
      by_cases same : entry.1 = key
      · subst same
        simp [write]
      · simp only [write, same, if_false, List.map_cons, List.mem_cons, ih]
        exact or_left_comm

private theorem le_foldl (table : Table α) (start : Nat) :
    start ≤ table.foldl (fun next entry => max next (entry.1 + 1)) start := by
  induction table generalizing start with
  | nil => exact Nat.le_refl start
  | cons entry rest ih => exact Nat.le_trans (Nat.le_max_left _ _) (ih _)

private theorem lt_foldl {table : Table α} {id : Nat} (known : id ∈ table.map (·.1)) (start : Nat) :
    id < table.foldl (fun next entry => max next (entry.1 + 1)) start := by
  induction table generalizing start with
  | nil => cases known
  | cons entry rest ih =>
      rcases List.mem_cons.mp known with rfl | later
      · have reached := le_foldl rest (max start (entry.1 + 1))
        simp only [List.foldl_cons]
        omega
      · exact ih later _

theorem fresh_not_mem (table : Table α) : table.fresh ∉ table.map (·.1) := fun known =>
  Nat.lt_irrefl _ (lt_foldl known 0)

theorem write_write (table : Table α) (id : Nat) (first second : α) :
    write (write table id first) id second = write table id second := by
  induction table with
  | nil => simp [write]
  | cons entry rest ih =>
      grind [write]

end Table

end Formwork
