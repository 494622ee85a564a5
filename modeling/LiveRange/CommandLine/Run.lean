import LiveRange.CommandLine.Request

/-! The whole command: what it prints, and how it exits. -/

namespace LiveRange.CommandLine

/-- Messages go to the error output, and each may run over several lines. -/
structure Outcome where
  exitCode : UInt32
  output : List Text := []
  messages : List Text := []
  invocations : List Invocation := []
  deriving DecidableEq, Repr

/-- What the command is called when the system does not tell. -/
def commandName : Text := "pcrange".toList

def versionLines : List Text :=
  ["pcrange v0.1.0".toList,
    ("Resolve the PC ranges over which a local variable's location is valid, " ++
      "from objdump DWARF dumps").toList]

def helpLines (program : Text) : List Text :=
  ["PCRANGE - PC ranges over which a variable's location is valid".toList,
    "Usage: ".toList ++ program ++ " [options] --line LINE --source FILE OBJECT".toList] ++
  ["",
    "Options:",
    "  -l, --line LINE     Line the variable is declared at",
    "  -s, --source FILE   Source file the variable is declared in",
    "  -n, --name NAME     Variable name, used in messages",
    "  -a, --arch ARCH     Architecture reported by the debugger (default: read from OBJECT)",
    "      --objdump PATH  objdump to run (default: $PCRANGE_OBJDUMP or arm-none-eabi-objdump)",
    "      --dumps DIR     Read rawline.txt, info.txt and loc.txt from DIR instead of " ++
      "running objdump",
    "      --verbose       Log each step",
    "  -h, --help          Display this help message",
    "  -v, --version       Display version information",
    "",
    "Ranges are printed one per line as 'start -- end' in hexadecimal.",
    "Exit status is 2 when nothing is declared at LINE of FILE."].map String.toList

/-- The further lines of a logged message are indented. -/
def logged (message : Text) : Text :=
  "[ERROR pcrange] ".toList ++
    message.flatMap fun c => if c = '\n' then "\n    ".toList else [c]

def Stop.outcome (program : Text) : Stop → Outcome
  | .help => { exitCode := 0, output := helpLines program }
  | .version => { exitCode := 0, output := versionLines }
  | .refused error =>
    { exitCode := 1
      messages := [program ++ ": ".toList ++ error.message,
        "Try '".toList ++ program ++ " --help' for more information.".toList] }

def failed (message : Text) : Outcome := { exitCode := 1, messages := [logged message] }

/-- Only a variable that is not declared where the query says makes the exit code differ. -/
def report (query : Query) : Finding → Outcome
  | .ranges _ _ ranges => { exitCode := 0, output := ranges.map AddressRange.text }
  | .noRanges _ list =>
    { exitCode := 0
      messages := [query.name ++ ": location list ".toList ++ list.text ++
        " has no ranges".toList] }
  | .noLocationList declaration =>
    { exitCode := 0
      messages := [query.name ++ ": declared at ".toList ++ declaration.path ++ ':' ::
        Numeral.decimal declaration.line ++ " without a location list".toList] }
  | .notDeclared =>
    { exitCode := 2
      messages := [query.name ++ ": no declaration at ".toList ++ query.source ++ ':' ::
        Numeral.decimal query.line] }

def Options.outcome (options : Options) (host : Host) : Outcome :=
  match options.query host with
  | .error error => failed error.message
  | .ok query =>
    let (result, requests) := (query.answer (options.dumpSource host)).run.run []
    let outcome :=
      match result with
      | .ok finding => report query finding
      | .error failure => failed failure.message
    { outcome with invocations := options.invocations host requests }

/-- The arguments are those behind what the command is called. -/
def run (host : Host) (arguments : List Text) (program : Text := commandName) : Outcome :=
  match Options.ofArguments arguments with
  | .error stop => stop.outcome program
  | .ok options => options.outcome host

/-- How a start of the command ends. An argument that is no text breaks it off before it does
anything. -/
inductive Ending where
  | exited (outcome : Outcome)
  | aborted (argument : Bytes)
  deriving DecidableEq, Repr

/-- An argument as a text, or itself if it is none. -/
def textOf (argument : Bytes) : Except Bytes Text :=
  (Utf8.decode argument).mapError fun _ => argument

/-- The arguments as the system hands them over, the name of the command in front. All of them
become texts first, that name included. -/
def launch (host : Host) (given : List Bytes) : Ending :=
  match given.mapM textOf with
  | .error argument => .aborted argument
  | .ok [] => .exited (run host [])
  | .ok (program :: arguments) => .exited (run host arguments program)

end LiveRange.CommandLine
