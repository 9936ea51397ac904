import Formwork.Log.Record

/-! # Setting up the log

From which level on records are written, to the console and to a file.
-/

namespace Formwork.Log

/-- The level of a name, in capitals or not. -/
def levelOfName? (name : String) : Option Int :=
  match String.ofList (Text.upperAscii name.toList) with
  | "CRITICAL" | "FATAL" => some 50
  | "ERROR" => some 40
  | "WARNING" | "WARN" => some 30
  | "INFO" => some 20
  | "DEBUG" => some 10
  | "NOTSET" => some 0
  | _ => none

/-- A log that was set up. -/
structure Setup where
  level : Int := infoLevel
  /-- Whether records also go to a file. -/
  toFile : Bool := false
  deriving Repr, DecidableEq

namespace Setup

/-- The level of a setting; a name that is none counts as ordinary news. -/
def levelOf : Value → Int
  | .int n => n
  | .str name => (levelOfName? name).getD infoLevel
  | _ => infoLevel

/-- The levels of the ways that records go: to the console, and perhaps to a file. -/
def thresholds (setup : Setup) : List Int :=
  if setup.toFile then [setup.level, setup.level] else [setup.level]

/-- The level from which on the root lets records pass: without a level of its own it asks
    for warnings. -/
def passLevel (setup : Setup) : Int := if setup.level = 0 then warningLevel else setup.level

/-- Whether a component belongs to the root. -/
def covers (source : String) : Bool :=
  source = rootSource || (rootSource.toList ++ ['.']).isPrefixOf source.toList

def accepts (setup : Setup) (record : Record) : Bool :=
  covers record.source && decide (setup.passLevel ≤ record.level)
    && decide (setup.level ≤ record.level)

end Setup

end Formwork.Log
