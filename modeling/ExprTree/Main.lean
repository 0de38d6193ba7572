import ExprTree.CommandLine

/-! The program: it collects arguments, environment and files, runs the command line on them and
writes what that comes to. -/
namespace ExprTree.Main

open CommandLine

/-- The contents of a file, or why it cannot be read. -/
def readFile (path : String) : IO (Except ReadFault (List UInt8)) := do
  try
    return .ok (← IO.FS.readBinFile path).toList
  catch
    | .noFileOrDirectory .. => return .error (.missing path)
    | .permissionDenied .. => return .error (.denied path)
    | .inappropriateType .. => return .error (.directory path)
    | _ => return .error (.missing path)

/-- The files that a command line may need. -/
def neededFiles : Action → List String
  | .evaluate options _ => options.source.toList ++ [options.context].filter (· ≠ "")
  | _ => []

/-- Whether a command line reads the standard input. -/
def needsStdin : Action → Bool
  | .evaluate options _ => options.source.isNone
  | _ => false

/-- The line that is logged for an event. -/
def eventLine : Event → String
  | .applying function params args =>
    let names := ",".intercalate (params.map fun name => String.ofList (Text.quoted name))
    "\x7b\"level\":\"debug\",\"function\":" ++ String.ofList (Text.quoted function)
      ++ ",\"params\":[" ++ names ++ "],\"args\":" ++ toString args
      ++ ",\"message\":\"applying function\"\x7d"
  | .evaluated typeName =>
    "\x7b\"level\":\"debug\",\"type\":" ++ String.ofList (Text.quoted typeName)
      ++ ",\"message\":\"evaluated\"\x7d"

/-- The line that is logged for a failure. -/
def faultLine (fault : Fault) : String :=
  "\x7b\"level\":\"error\",\"error\":" ++ String.ofList (Text.quoted fault.message)
    ++ ",\"message\":\"asteval failed\"\x7d"

end ExprTree.Main

open ExprTree ExprTree.CommandLine ExprTree.Main in
def main (arguments : List String) : IO UInt32 := do
  let names := ["HOST", "PORT", "GRPC_PORT", "LOG_LEVEL"]
  let settings ← names.mapM fun name => do return (name, (← IO.getEnv name).getD "")
  let setting (name : String) : String := (Entries.get? settings name).getD ""
  let action := (parse setting arguments).toOption.getD .version
  let files ← (neededFiles action).mapM fun path => do return (path, ← readFile path)
  let stdin ← if needsStdin action then (← IO.getStdin).readBinToEnd else pure ByteArray.empty
  let file (path : String) := (Entries.get? files path).getD (.error (.missing path))
  let outcome := run setting { stdin := stdin.toList, file } arguments
  outcome.events.forM fun event => IO.eprintln (eventLine event)
  IO.print outcome.output
  match outcome.fault with
  | none => return 0
  | some fault =>
    IO.eprintln (faultLine fault)
    return 1
