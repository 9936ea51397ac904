import Formwork.Command.Arguments
import Formwork.Command.Layout
import Formwork.Command.Run
import Formwork.Log.Setup
import Std.Time.DateTime.Timestamp

/-! # The program

Reads the files that a command names, carries out the task, and prints what it comes to.
-/

namespace Formwork

def readFile (path : String) : IO FileContent := do
  try
    return .bytes (← IO.FS.readBinFile path)
  catch error =>
    match error with
    | .noFileOrDirectory .. => return .absent
    | _ => return .directory

def recordOf (created : Binary64) (notice : Notice) : Log.Record :=
  { source := notice.source, level := notice.severity.level, path := "", line := 0
    message := notice.message, created, context := notice.context }

/-- The seconds since the start of 1970. -/
def now : IO Binary64 := do
  let stamp ← Std.Time.Timestamp.now
  return Binary64.ofInt stamp.toSecondsSinceUnixEpoch.val

def logNotices (setup : Log.Setup) (file : Option String) (notices : List Notice) : IO Unit := do
  let created ← now
  for notice in notices do
    let record := recordOf created notice
    if setup.accepts record then
      if let .ok line := record.consoleLine then IO.eprintln line
      if let (some path, .ok line) := (file, record.jsonLine) then
        let handle ← IO.FS.Handle.mk path .append
        handle.putStrLn line

def carryOut (invocation : Command.Invocation) : IO UInt32 := do
  let files : Command.Files :=
    { config := ← readFile invocation.config
      schema := ← readFile invocation.schema
      schemaPath := invocation.schema
      data := ← (invocation.data.map readFile).getD (pure .absent) }
  if let .ok config := Config.load files.config then
    let level := if invocation.verbose then "DEBUG" else config.logLevel
    let setup : Log.Setup := { level := Log.Setup.levelOf (.str level) }
    logNotices setup config.logFile (Command.notices invocation.task files config)
  let result := Command.run invocation.task files
  for line in result.output.lines do IO.println line
  return result.code.toUInt32

end Formwork

/-- The command line. -/
def main (words : List String) : IO UInt32 := do
  match Formwork.Command.Request.ofWords words with
  | .version =>
      IO.println Formwork.Command.version
      return 0
  | .help =>
      for line in Formwork.Command.helpLines do IO.println line
      return 0
  | .misuse =>
      for line in Formwork.Command.helpLines do IO.eprintln line
      return 2
  | .invoke invocation => Formwork.carryOut invocation
