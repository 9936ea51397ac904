import Formwork.Calendar.Moment
import Formwork.Json.Printer
import Formwork.Notice
import Formwork.Text.Template

/-! # Log records

A record says what happened, where and when. It is written as one line of JSON for
programs, or as a line for people.
-/

namespace Formwork.Log

def namedLevels : List (Int × String) :=
  [(50, "CRITICAL"), (40, "ERROR"), (30, "WARNING"), (20, "INFO"), (10, "DEBUG"), (0, "NOTSET")]

def levelName (level : Int) : String :=
  (namedLevels.lookup level).getD ("Level " ++ toString level)

def infoLevel : Int := 20

/-- The level from which on records say where they come from. -/
def warningLevel : Int := 30

/-- The failure that a record tells of. -/
inductive Failure where
  | none
  /-- There is a place for a failure but nothing in it. -/
  | empty
  | raised (kind message : String)
  deriving Repr, DecidableEq

/-- Something that happened. -/
structure Record where
  /-- The component that reports it. -/
  source : String
  level : Int
  path : String
  line : Int
  /-- The message; it is a template when there are arguments. -/
  message : String
  arguments : List Value := []
  /-- Seconds since the start of 1970. -/
  created : Binary64
  context : Entries Value := []
  failure : Failure := .none

/-- Why a record cannot be written. -/
inductive Fault where
  | template (fault : Template.Fault)
  /-- The time is not a number of seconds. -/
  | notATime
  /-- The time lies outside the calendar. -/
  | outsideCalendar
  deriving Repr, DecidableEq

/-- The text of a failure. Of a name that was not found it is the name in quotes. -/
def Failure.text (kind message : String) : String :=
  if kind = "KeyError" then quoted message else message

/-- How records are written: a blank after each comma and colon, and ASCII alone. -/
def recordStyle : Json.Style :=
  { comma := ", ", colon := ": ", asciiOnly := true
    decimal := { DecimalStyle.message with
      nan := "NaN", infinity := "Infinity", negativeInfinity := "-Infinity" } }

namespace Record

def fullMessage (record : Record) : Except Fault String :=
  if record.arguments.isEmpty then .ok record.message
  else (Template.fill record.message record.arguments).mapError .template

def moment (record : Record) : Except Fault Calendar.Moment :=
  match Calendar.Moment.ofSeconds? record.created with
  | none => .error .notATime
  | some moment => if moment.inCalendar then .ok moment else .error .outsideCalendar

/-- The document of a record. The context is left out when it is empty, and the place in the
    program below warnings. -/
def document (record : Record) : Except Fault (Entries Value) := do
  let moment ← record.moment
  let message ← record.fullMessage
  let context := if record.context.isEmpty then [] else [("context", .object record.context)]
  let place : List (String × Value) :=
    if warningLevel ≤ record.level then
      [("source", .object [("file", .str record.path), ("line", .int record.line)])]
    else []
  let failure : List (String × Value) := match record.failure with
    | .raised kind message =>
        [("exception", .object
          [("type", .str kind), ("message", .str (Failure.text kind message))])]
    | _ => []
  return [("timestamp", .str moment.isoText), ("level", .str (levelName record.level)),
    ("logger", .str record.source), ("message", .str message)] ++ context ++ place ++ failure

def jsonLine (record : Record) : Except Fault String := do
  return Json.write recordStyle (.object (← record.document))

/-- The component without the root in front of it. -/
def component (record : Record) : String :=
  let root := rootSource.toList ++ ['.']
  let name := record.source.toList
  if root.isPrefixOf name then String.ofList (name.drop root.length) else record.source

/-- What is written under the line for people about a failure. -/
def failureText : Failure → String
  | .none => ""
  | .empty => "\nNoneType: None"
  | .raised kind message =>
      let text := Failure.text kind message
      "\n" ++ kind ++ (if text = "" then "" else ": " ++ text)

/-- A record as a line for people. Ordinary news go without the name of their level. -/
def consoleLine (record : Record) : Except Fault String := do
  let moment ← record.moment
  let level := if record.level = infoLevel then "" else " " ++ levelName record.level ++ ":"
  let message ← record.fullMessage
  return moment.clockText ++ " [" ++ record.component ++ "]" ++ level ++ " " ++ message
    ++ failureText record.failure

end Record

end Formwork.Log
