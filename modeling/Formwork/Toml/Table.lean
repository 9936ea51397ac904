import Formwork.Value.Basic

/-! # Tables of a TOML document

A document is a sequence of statements that open tables and add entries to them. Each
table can be opened by a header once, dotted keys can add to a table only in the section
that made it, and what is written in brackets or braces is closed for good.
-/

namespace Formwork.Toml

/-- One statement of a document. -/
inductive Statement where
  /-- Open a table. -/
  | header (parents : List String) (name : String)
  /-- Open one more table of a list of tables. -/
  | listHeader (parents : List String) (name : String)
  /-- Add an entry to the open table. -/
  | entry (parents : List String) (name : String) (value : Value)

/-- How a table came to be. -/
inductive Origin where
  /-- Tables in it were opened. -/
  | implied
  /-- A dotted key of a section leads through it. -/
  | dotted (place : Nat)
  /-- A header opened it. -/
  | declared
  deriving Repr, DecidableEq

/-- What stands under a name while a document is put together. -/
inductive Node where
  | leaf (value : Value)
  | table (origin : Origin) (entries : List (String × Node))
  /-- A list of tables, of which only the last one is open. -/
  | tables (earlier : List Value) (last : List (String × Node))

namespace Node

mutual

/-- The value that stands under a name in the end. -/
def toValue : Node → Value
  | .leaf value => value
  | .table _ entries => .object (entriesToValue entries)
  | .tables earlier last => .list (earlier ++ [.object (entriesToValue last)])

def entriesToValue : List (String × Node) → List (String × Value)
  | [] => []
  | (name, node) :: rest => (name, toValue node) :: entriesToValue rest

end

end Node

/-- A step on the way to an entry: a part of a header, or of a dotted key. -/
structure Step where
  name : String
  isDotted : Bool

/-- How a table is marked when a step leads through it; none when it may not. -/
def Origin.through (place : Nat) (isDotted : Bool) : Origin → Option Origin
  | .implied => some (if isDotted then .dotted place else .implied)
  | .dotted made =>
      if isDotted && made != place then none else some (.dotted made)
  | .declared => if isDotted then none else some .declared

/-- Change what stands at the end of a way, making the tables that the way lacks. -/
def change (place : Nat) (f : Option Node → Option Node) (name : String) :
    List Step → Entries Node → Option (Entries Node)
  | [], entries => do return entries.put name (← f (entries.get? name))
  | step :: rest, entries =>
      match entries.get? step.name with
      | none => do
          let origin ← Origin.implied.through place step.isDotted
          return entries.put step.name (.table origin (← change place f name rest []))
      | some (.table origin inner) => do
          let origin ← origin.through place step.isDotted
          return entries.put step.name (.table origin (← change place f name rest inner))
      | some (.tables earlier last) =>
          if step.isDotted then none
          else do
            return entries.put step.name
              (.tables earlier (← change place f name rest last))
      | some (.leaf _) => none

/-- Open a table: one that is new, or that was only implied. -/
def openTable : Option Node → Option Node
  | none => some (.table .declared [])
  | some (.table .implied entries) => some (.table .declared entries)
  | some _ => none

/-- Open one more table of a list of tables. -/
def openNext : Option Node → Option Node
  | none => some (.tables [] [])
  | some (.tables earlier last) =>
      some (.tables (earlier ++ [.object (Node.entriesToValue last)]) [])
  | some _ => none

/-- Add an entry that is not there yet. -/
def addLeaf (value : Value) : Option Node → Option Node
  | none => some (.leaf value)
  | some _ => none

def headerSteps (names : List String) : List Step := names.map (⟨·, false⟩)

/-- The steps of a dotted key's names. -/
def dottedSteps (names : List String) : List Step := names.map (⟨·, true⟩)

/-- The tables put together so far. -/
structure Assembly where
  root : Entries Node := []
  /-- The names that lead to the open table. -/
  header : List String := []
  /-- How many headers there were. -/
  place : Nat := 0

namespace Assembly

def follow (assembly : Assembly) : Statement → Option Assembly
  | .header parents name => do
      let place := assembly.place + 1
      let root ← change place openTable name (headerSteps parents) assembly.root
      return { root, header := parents ++ [name], place }
  | .listHeader parents name => do
      let place := assembly.place + 1
      let root ← change place openNext name (headerSteps parents) assembly.root
      return { root, header := parents ++ [name], place }
  | .entry parents name value => do
      let steps := headerSteps assembly.header ++ dottedSteps parents
      let root ← change assembly.place (addLeaf value) name steps assembly.root
      return { assembly with root }

def followAll : List Statement → Assembly → Option Assembly
  | [], assembly => some assembly
  | statement :: rest, assembly => do followAll rest (← assembly.follow statement)

end Assembly

def ofStatements? (statements : List Statement) : Option (Entries Value) := do
  return Node.entriesToValue (← Assembly.followAll statements {}).root

def inlineTable? (entries : List (List String × String × Value)) : Option Value := do
  let statements := entries.map fun entry => .entry entry.1 entry.2.1 entry.2.2
  return .object (← ofStatements? statements)

end Formwork.Toml
