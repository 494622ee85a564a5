import LiveRange.CommandLine.Run
import LiveRange.ObjectFile

/-! The command itself. It reads recorded dumps. It starts no other program, and says so where one
is needed. -/

namespace LiveRange

/-- The host's own account of a failed access. A cause is told by its number, or by the negation of
its number where the file could not be opened. -/
def fileError : IO.Error → FileError
  | .noFileOrDirectory .. => .notFound
  | .permissionDenied .. => .permissionDenied
  | error@(.inappropriateType _ code _) | error@(.invalidArgument _ code _) =>
    if code ∈ [20, -20] then .notADirectory
    else if code ∈ [21, -21] then .isADirectory
    else if code ∈ [36, -36] then .nameTooLong
    else .other error.toString.toList
  | error => .other error.toString.toList

def observe (path : Path) : IO (Path × Except FileError Bytes) := do
  try
    let content ← IO.FS.readBinFile (String.ofList path)
    return (path, .ok content.toList)
  catch error => return (path, .error (fileError error))

/-- The files that a run with these options can read. -/
def filesOf (options : CommandLine.Options) : List Path :=
  options.object.toList ++ options.recorded.toList.flatMap fun directory =>
    [Dump.Kind.rawline, .info, .loc].map (Dump.recordedPath directory)

/-- A host that shows the files observed and one variable, and starts nothing. -/
def observedHost (seen : List (Path × Except FileError Bytes)) (program : Option Text) : Host where
  read path := (seen.lookup path).getD (.error .notFound)
  present path :=
    match seen.lookup path with
    | none | some (.error .notFound) | some (.error .notADirectory)
    | some (.error .nameTooLong) => false
    | _ => true
  start _ := .error (.other "no program can be started from here".toList)
  environment? name := if name = CommandLine.programVariable then program else none
  inspect := Machine.inspect

def observedFor (arguments : List Text) : IO Host := do
  let program ← IO.getEnv (String.ofList CommandLine.programVariable)
  let files :=
    match CommandLine.Options.ofArguments arguments with
    | .ok options => filesOf options
    | .error _ => []
  return observedHost (← files.mapM observe) (program.map String.toList)

end LiveRange

/-- The runtime has made texts of the arguments already, and keeps the name of the command to
itself. -/
def main (arguments : List String) : IO UInt32 := do
  let arguments := arguments.map String.toList
  let given := (LiveRange.CommandLine.commandName :: arguments).map LiveRange.Utf8.encode
  match LiveRange.CommandLine.launch (← LiveRange.observedFor arguments) given with
  | .exited outcome =>
    outcome.output.forM fun line => IO.println (String.ofList line)
    outcome.messages.forM fun message => IO.eprintln (String.ofList message)
    return outcome.exitCode
  | .aborted _ =>
    IO.eprintln "an argument is no text"
    return 101
