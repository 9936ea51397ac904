/-! # Named entries

A list of named entries in the order in which the names were first put in. Putting a
name again keeps its place; a removed name loses it.
-/

namespace Formwork

/-- Entries by name, in insertion order. -/
abbrev Entries (α : Type) := List (String × α)

namespace Entries

variable {α β : Type}

def get? : Entries α → String → Option α
  | [], _ => none
  | (key, value) :: rest, name => if key = name then some value else get? rest name

def has (entries : Entries α) (name : String) : Bool := (entries.get? name).isSome

/-- Set the entry of a name, in its place or at the end. -/
def put : Entries α → String → α → Entries α
  | [], name, value => [(name, value)]
  | (key, old) :: rest, name, value =>
      if key = name then (key, value) :: rest else (key, old) :: put rest name value

/-- Put several entries, one after the other. -/
def putAll (entries : Entries α) (more : Entries α) : Entries α :=
  more.foldl (fun result entry => result.put entry.1 entry.2) entries

def drop (entries : Entries α) (name : String) : Entries α :=
  entries.filter fun entry => entry.1 != name

/-- Remove the entries of several names. -/
def dropAll (entries : Entries α) (names : List String) : Entries α :=
  entries.filter fun entry => !names.contains entry.1

/-- The names, in order. -/
def names (entries : Entries α) : List String := entries.map (·.1)

def mapValues (f : α → β) (entries : Entries α) : Entries β :=
  entries.map fun entry => (entry.1, f entry.2)

/-- Entries from a list in which a later value of a name replaces an earlier one. -/
def ofList (pairs : List (String × α)) : Entries α := putAll [] pairs

@[simp] theorem get?_nil (name : String) : get? ([] : Entries α) name = none := rfl

theorem get?_put (entries : Entries α) (key name : String) (value : α) :
    get? (put entries key value) name =
      if key = name then some value else get? entries name := by
  induction entries with
  | nil => simp [put, get?]
  | cons entry rest ih =>
      grind [put, get?]

theorem get?_drop (entries : Entries α) (key name : String) :
    get? (drop entries key) name = if key = name then none else get? entries name := by
  induction entries with
  | nil => simp [drop, get?]
  | cons entry rest ih =>
      simp only [drop, List.filter_cons] at ih ⊢
      grind [get?]

theorem get?_dropAll (entries : Entries α) (gone : List String) (name : String) :
    get? (dropAll entries gone) name = if name ∈ gone then none else get? entries name := by
  induction entries with
  | nil => simp [dropAll, get?]
  | cons entry rest ih =>
      simp only [dropAll, List.filter_cons] at ih ⊢
      grind [get?]

end Entries

end Formwork
