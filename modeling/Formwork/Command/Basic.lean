import Formwork.Config.File
import Formwork.Text.Markup
import Formwork.Workspace.Basic

/-! # Commands

What the command line is asked to do, and what comes of it.
-/

namespace Formwork.Command

/-- Something to do with a schema. -/
inductive Task where
  /-- List the fields. -/
  | check
  /-- Check values against the schema, or against one step of it. -/
  | validate (step : Option String) (asReport : Bool)
  /-- List the steps. -/
  | steps

/-- The files that a task is given. -/
structure Files where
  config : FileContent := .absent
  schema : FileContent := .absent
  /-- Where the schema is looked for. -/
  schemaPath : String := ""
  data : FileContent := .absent

/-- Rows of cells under a header, and lines below them. -/
structure Table where
  title : String
  header : List String
  rows : List (List String)
  tail : List String := []
  deriving Repr, DecidableEq

/-- The result of a validation with what was validated. -/
structure Report where
  outcome : Outcome
  visibility : Visibility
  payload : Entries Value

/-- Why a task ends without a message. -/
inductive Failure where
  | config (fault : Config.Fault)
  /-- The path of the schema leads to a directory. -/
  | schemaIsDirectory
  /-- The file of the schema holds no text. -/
  | schemaIsNoText
  /-- A number of the schema has too many digits. -/
  | schemaHasLongNumber
  | schemaIsTooDeep
  /-- The file of the values holds no text. -/
  | dataIsNoText
  /-- A number among the values has too many digits. -/
  | dataHasLongNumber
  | dataIsTooDeep
  /-- The schema does not compile, or its session fails. -/
  | session (fault : Fault)
  /-- A text closes a tag that is not open. -/
  | markup

/-- What a task comes to. -/
inductive Output where
  | table (table : Table)
  | report (report : Report)
  | message (text : String)
  | failure (failure : Failure)
  /-- The task was not put in the right words. -/
  | misuse

/-- What a task comes to, and the code that it ends with. -/
structure Result where
  code : Nat
  output : Output

/-- A task that may end early, with a result. -/
abbrev Attempt (α : Type) := Except Result α

namespace Attempt

variable {α : Type}

def fail (failure : Failure) : Attempt α := .error ⟨1, .failure failure⟩

def plain (text : String) : Attempt String :=
  match Text.Markup.plain? text with
  | some text => .ok text
  | none => fail .markup

def complain (message : String) : Attempt α := do
  .error ⟨1, .message (← plain ("[red]Error:[/red] " ++ message))⟩

end Attempt

namespace Table

def cell (text : String) : Attempt String := do
  return String.ofList (Text.strip (← Attempt.plain text).toList)

def cells : List String → Attempt (List String)
  | [] => .ok []
  | text :: rest => do return (← cell text) :: (← cells rest)

def rowsOf : List (List String) → Attempt (List (List String))
  | [] => .ok []
  | row :: rest => do return (← cells row) :: (← rowsOf rest)

/-- The table as it is shown: all its texts without their tags. -/
def shown (table : Table) : Attempt Table := do
  return { title := ← cell table.title, header := ← cells table.header
           rows := ← rowsOf table.rows, tail := ← cells table.tail }

end Table

end Formwork.Command
