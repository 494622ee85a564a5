import LiveRange.Dump.Kind
import LiveRange.Host

/-! Why a query has no answer. -/

namespace LiveRange

namespace Dump

inductive Fault where
  | unreadable (path : Path) (error : FileError)
  | recordNotText (path : Path)
  | notStarted (program : Path) (error : FileError)
  | ended (program : Path) (status : ExitStatus) (diagnostics : Bytes)
  | outputNotText (fault : Utf8.Fault)
  | blank
  | reported (reason : Text)
  deriving DecidableEq, Repr

def Fault.message : Fault → Text
  | .unreadable path error => path ++ ": ".toList ++ error.message
  | .recordNotText path => path ++ ": stream did not contain valid UTF-8".toList
  | .notStarted program error => "cannot run ".toList ++ program ++ ": ".toList ++ error.message
  | .ended program status diagnostics =>
    program ++ " exited with ".toList ++ status.text ++ ": ".toList ++
      (Utf8.decodeLossy diagnostics).trim
  | .outputNotText fault => "output is not UTF-8: ".toList ++ fault.message
  | .blank => "empty output".toList
  | .reported reason => reason

end Dump

/-- Why the machine of an object file is not known. What the reader of such files reports is taken
over as it is. -/
inductive InspectionFault where
  | unreadable (error : FileError)
  | reported (reason : Text)
  deriving DecidableEq, Repr

def InspectionFault.message : InspectionFault → Text
  | .unreadable error => error.message
  | .reported reason => reason

inductive Failure where
  | machineUnsupported (found supported : Text)
  | dumpFailed (kind : Dump.Kind) (fault : Dump.Fault)
  | objectUninspected (path : Path) (fault : InspectionFault)
  deriving DecidableEq, Repr

def Failure.message : Failure → Text
  | .machineUnsupported found supported =>
    "Unsupported architecture '".toList ++ found ++ "' (only ".toList ++ supported ++
      " is supported)".toList
  | .dumpFailed kind fault => kind.name ++ " dump failed: ".toList ++ fault.message
  | .objectUninspected path fault =>
    "Cannot inspect object file ".toList ++ path ++ ": ".toList ++ fault.message

end LiveRange
