import Formwork.Command.Basic

/-! # Arguments

What the words of a command line ask for.
-/

namespace Formwork.Command

/-- A task with the paths of its files. -/
structure Invocation where
  config : String := "dazzle.toml"
  /-- Whether everything is logged that there is notice of. -/
  verbose : Bool := false
  task : Task
  schema : String
  data : Option String := none

/-- What a command line asks for. -/
inductive Request where
  | version
  | help
  | invoke (invocation : Invocation)
  /-- The words do not fit together. -/
  | misuse

/-- What stands before the command. -/
structure Preamble where
  config : String := "dazzle.toml"
  verbose : Bool := false
  version : Bool := false
  help : Bool := false

/-- The options before the command, and the words from the command on; none when an option
    is unknown or lacks its value. -/
def preamble? : Preamble → List String → Option (Preamble × List String)
  | found, [] => some (found, [])
  | found, "--config" :: path :: rest => preamble? { found with config := path } rest
  | found, "-c" :: path :: rest => preamble? { found with config := path } rest
  | found, "--verbose" :: rest => preamble? { found with verbose := true } rest
  | found, "-v" :: rest => preamble? { found with verbose := true } rest
  | found, "--version" :: rest => preamble? { found with version := true } rest
  | found, "--help" :: rest => preamble? { found with help := true } rest
  | found, word :: rest => if "-".isPrefixOf word then none else some (found, word :: rest)

/-- The options and the paths after the command. -/
structure Details where
  paths : List String := []
  step : Option String := none
  asReport : Bool := false

/-- The words after the command; none when an option is unknown or lacks its value. -/
def details? : Details → List String → Option Details
  | found, [] => some found
  | found, "--step" :: step :: rest => details? { found with step := some step } rest
  | found, "-s" :: step :: rest => details? { found with step := some step } rest
  | found, "--json" :: rest => details? { found with asReport := true } rest
  | found, word :: rest =>
      if "-".isPrefixOf word then none
      else details? { found with paths := found.paths ++ [word] } rest

/-- The task of a command, with the paths that it takes. -/
def invocation? (preamble : Preamble) (command : String) (details : Details) :
    Option Invocation :=
  let plain (task : Task) : Option Invocation :=
    match details with
    | ⟨[schema], none, false⟩ =>
        some { config := preamble.config, verbose := preamble.verbose, task, schema }
    | _ => none
  match command with
  | "check" => plain .check
  | "steps" => plain .steps
  | "validate" => match details.paths with
      | [schema, data] =>
          some { config := preamble.config, verbose := preamble.verbose
                 task := .validate details.step details.asReport, schema, data := some data }
      | _ => none
  | _ => none

/-- What the words of a command line ask for. -/
def Request.ofWords (words : List String) : Request :=
  match preamble? {} words with
  | none => .misuse
  | some (preamble, rest) =>
      if preamble.version then .version
      else if preamble.help then .help
      else match rest with
        | [] => .misuse
        | command :: rest =>
            match (details? {} rest).bind (invocation? preamble command) with
            | some invocation => .invoke invocation
            | none => .misuse

end Formwork.Command
