import Formwork.Command.Basic
import Formwork.Json.Printer
import Formwork.Value.Text

/-! # Layout

The lines that a task's output is shown in.
-/

namespace Formwork.Command

namespace Table

/-- The widths of columns that hold the cells of a row beside those of rows before it. -/
def widen (widths : List Nat) (row : List String) : List Nat :=
  List.zipWith max widths (row.map String.length)

def widths (table : Table) : List Nat :=
  table.rows.foldl widen (table.header.map String.length)

/-- A cell filled up with blanks. -/
def padded (width : Nat) (cell : String) : String :=
  cell ++ String.ofList (List.replicate (width - cell.length) ' ')

def rowLine (widths : List Nat) (row : List String) : String :=
  " | ".intercalate (List.zipWith padded widths row)

def rule (widths : List Nat) : String :=
  "-+-".intercalate (widths.map fun width => String.ofList (List.replicate width '-'))

def lines (table : Table) : List String :=
  let widths := table.widths
  [table.title, rowLine widths table.header, rule widths]
    ++ table.rows.map (rowLine widths) ++ table.tail

end Table

def reportStyle : Json.Style :=
  { comma := ", ", colon := ": ", asciiOnly := false
    decimal := { DecimalStyle.message with
      nan := "NaN", infinity := "Infinity", negativeInfinity := "-Infinity" } }

namespace Report

def document (report : Report) : Value := .object
  [("valid", .bool report.outcome.valid),
   ("errors", .object (report.outcome.errors.mapValues fun messages =>
     .list (messages.map .str))),
   ("visibility", .object (report.visibility.mapValues .bool)),
   ("payload", .object report.payload)]

end Report

/-- What is said about a task that ends without a message of its own. -/
def Failure.text : Failure → String
  | .config .isDirectory => "The configuration is a directory"
  | .config .notText => "The configuration is no text"
  | .config .malformed => "The configuration is no TOML document"
  | .config (.invalid _) => "The configuration has settings that cannot be used"
  | .schemaIsDirectory => "The schema is a directory"
  | .schemaIsNoText => "The schema is no text"
  | .schemaHasLongNumber => "The schema has a number with too many digits"
  | .schemaIsTooDeep => "The schema is nested too deep"
  | .dataIsNoText => "The values are no text"
  | .dataHasLongNumber => "The values have a number with too many digits"
  | .dataIsTooDeep => "The values are nested too deep"
  | .session _ => "The schema cannot be compiled"
  | .markup => "A text closes a tag that is not open"

def Output.lines : Output → List String
  | .table rows => rows.lines
  | .report found => [Json.write reportStyle found.document]
  | .message text => [text]
  | .failure cause => [cause.text]
  | .misuse => ["Usage: formwork [--config FILE] [--verbose] COMMAND ...; see --help"]

def helpLines : List String :=
  ["Inspect and validate declarative form schemas",
   "",
   "  check SCHEMA                               list the fields of a schema",
   "  validate SCHEMA DATA [--step N] [--json]   check field values against a schema",
   "  steps SCHEMA                               list the steps of a schema",
   "",
   "  --config FILE, -c FILE   settings, in a section [forms]; dazzle.toml by default",
   "  --verbose, -v            log everything",
   "  --version                show the version"]

end Formwork.Command
