import LiveRange.Failure

/-! Where dumps come from: a program run once for each, or files recorded earlier. -/

namespace LiveRange

namespace Dump

abbrev Source := Kind → Path → Except Fault Text

/-- Dumps from anywhere. They may be missing for a reason that is none of a dump. -/
abbrev Supply := Kind → Path → Except Failure Text

/-- A fault of a source is a failure to dump the kind asked for. -/
def Source.supply (source : Source) : Supply := fun kind object =>
  (source kind object).mapError (.dumpFailed kind)

instance : Coe Source Supply := ⟨Source.supply⟩

/-- A dump with nothing in it cannot be told from a program that failed silently. -/
def notBlank (text : Text) : Except Fault Text :=
  if text.trim = [] then .error .blank else .ok text

/-- The run of a dumping program for one kind. The dashes keep an object that starts with a dash
from being taken for an option. -/
def invocation (program : Path) (kind : Kind) (object : Path) : Invocation :=
  { program, arguments := [kind.option, "--".toList, object] }

def recordedPath (directory : Path) (kind : Kind) : Path := directory.join kind.fileName

end Dump

namespace Host

/-- Dumps recorded in a directory, whatever the object. -/
def recorded (host : Host) (directory : Path) : Dump.Source := fun kind _ => do
  let path := Dump.recordedPath directory kind
  let content ← (host.read path).mapError (.unreadable path)
  let text ← (Utf8.decode content).mapError fun _ => .recordNotText path
  Dump.notBlank text

/-- Dumps that a program writes to its standard output. -/
def rendered (host : Host) (program : Path) : Dump.Source := fun kind object => do
  let finish ← (host.start (Dump.invocation program kind object)).mapError (.notStarted program)
  if finish.status ≠ .code 0 then throw (.ended program finish.status finish.diagnostics)
  let text ← (Utf8.decode finish.output).mapError .outputNotText
  Dump.notBlank text

end Host

end LiveRange
