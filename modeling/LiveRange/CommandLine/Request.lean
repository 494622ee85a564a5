import LiveRange.CommandLine.Options
import LiveRange.Query

/-! From options to a query and a source of dumps. -/

namespace LiveRange.CommandLine

inductive QueryError where
  | noObject
  | noLine
  | noSource
  | objectMissing (path : Path)
  | machineUndetected (failure : Failure)
  deriving DecidableEq, Repr

def QueryError.message : QueryError → Text
  | .noObject => "no object file given".toList
  | .noLine => "no declaration line given (--line)".toList
  | .noSource => "no source file given (--source)".toList
  | .objectMissing path => "Object file not found: ".toList ++ path
  | .machineUndetected failure =>
    "cannot detect the architecture, pass --arch: ".toList ++ failure.message

def programVariable : Text := "PCRANGE_OBJDUMP".toList

def defaultProgram : Path := "arm-none-eabi-objdump".toList

namespace Options

/-- The machine told, or else the one the object is built for. -/
def machineOn (options : Options) (host : Host) (object : Path) : Except QueryError Text :=
  match options.machine with
  | some machine => .ok machine
  | none => (host.machineOf object).mapError .machineUndetected

/-- With recorded dumps the object need not be there, unless its machine has to be detected. A
variable without a name is called by its declaration. -/
def query (options : Options) (host : Host) : Except QueryError Query := do
  let some object := options.object | throw .noObject
  let some line := options.line | throw .noLine
  let some source := options.source | throw .noSource
  if options.recorded.isNone && !host.present object then throw (.objectMissing object)
  let machine ← options.machineOn host object
  let name := options.name.getD (source ++ ':' :: Numeral.decimal line)
  return { name, line, source, object, machine }

/-- The program told, or else the one the environment names, unless its name is empty. -/
def programOn (options : Options) (host : Host) : Path :=
  options.program.getD <|
    match host.environment? programVariable with
    | none | some [] => defaultProgram
    | some program => program

def dumpSource (options : Options) (host : Host) : Dump.Source :=
  match options.recorded with
  | some directory => host.recorded directory
  | none => host.rendered (options.programOn host)

/-- The runs of the dumping program that requests stand for. -/
def invocations (options : Options) (host : Host) (requests : List Dump.Request) :
    List Invocation :=
  match options.recorded with
  | some _ => []
  | none =>
    requests.map fun request => Dump.invocation (options.programOn host) request.kind request.object

end Options

end LiveRange.CommandLine
