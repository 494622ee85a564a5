import LiveRange.Machine
import LiveRange.Path
import LiveRange.Utf8

/-! What a host lets a program see: files, other programs, and environment variables. -/

namespace LiveRange

inductive FileError where
  | notFound
  | permissionDenied
  | notADirectory
  | isADirectory
  | nameTooLong
  | nulInName
  | nulInArgument
  | other (reason : Text)
  deriving DecidableEq, Repr

def FileError.message : FileError → Text
  | .notFound => "No such file or directory (os error 2)".toList
  | .permissionDenied => "Permission denied (os error 13)".toList
  | .notADirectory => "Not a directory (os error 20)".toList
  | .isADirectory => "Is a directory (os error 21)".toList
  | .nameTooLong => "File name too long (os error 36)".toList
  | .nulInName => "file name contained an unexpected NUL byte".toList
  | .nulInArgument => "nul byte found in provided data".toList
  | .other reason => reason

/-- A program ends on its own, or by a signal, which may leave an image of its memory behind. -/
inductive ExitStatus where
  | code (value : Nat)
  | signal (number : Nat) (coreDumped : Bool := false)
  deriving DecidableEq, Repr

namespace ExitStatus

def signalNames : List String :=
  ["SIGHUP", "SIGINT", "SIGQUIT", "SIGILL", "SIGTRAP", "SIGABRT", "SIGBUS", "SIGFPE", "SIGKILL",
    "SIGUSR1", "SIGSEGV", "SIGUSR2", "SIGPIPE", "SIGALRM", "SIGTERM", "SIGSTKFLT", "SIGCHLD",
    "SIGCONT", "SIGSTOP", "SIGTSTP", "SIGTTIN", "SIGTTOU", "SIGURG", "SIGXCPU", "SIGXFSZ",
    "SIGVTALRM", "SIGPROF", "SIGWINCH", "SIGIO", "SIGPWR", "SIGSYS"]

/-- The name of a signal in brackets, or nothing. Signals are numbered from one. -/
def signalNote : Nat → Text
  | 0 => []
  | number + 1 =>
    match signalNames[number]? with
    | some name => " (".toList ++ name.toList ++ ")".toList
    | none => []

def text : ExitStatus → Text
  | .code value => "exit status: ".toList ++ Nat.toDigits 10 value
  | .signal number coreDumped =>
    "signal: ".toList ++ Nat.toDigits 10 number ++ signalNote number ++
      if coreDumped then " (core dumped)".toList else []

end ExitStatus

/-- How a program ended, and what it wrote. -/
structure Finish where
  status : ExitStatus := .code 0
  output : Bytes := []
  diagnostics : Bytes := []
  deriving DecidableEq, Repr

structure Invocation where
  program : Path
  arguments : List Text
  deriving DecidableEq, Repr

/-- What a program finds outside of itself. The reader of object files is a library of the host's:
it tells the machine that a file is built for, or gives its own account of why it cannot. -/
structure Host where
  read : Path → Except FileError Bytes
  present : Path → Bool
  start : Invocation → Except FileError Finish
  environment? : Text → Option Text
  inspect : Bytes → Except Text Machine

end LiveRange
