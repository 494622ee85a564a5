import LiveRange.Path
import LiveRange.Numeral

/-! The options of the command line. -/

namespace LiveRange.CommandLine

/-- The options that take the next argument as their value. -/
inductive Field where
  | name
  | line
  | source
  | machine
  | program
  | recorded
  deriving DecidableEq, Repr

inductive Argument where
  | help
  | version
  | verbose
  | valued (field : Field)
  | unknown
  | object
  deriving DecidableEq, Repr

namespace Argument

def spellings : List (String × Argument) :=
  [("-v", version), ("--version", version), ("-h", help), ("--help", help),
    ("--verbose", verbose), ("-n", valued .name), ("--name", valued .name),
    ("-l", valued .line), ("--line", valued .line), ("-s", valued .source),
    ("--source", valued .source), ("-a", valued .machine), ("--arch", valued .machine),
    ("--objdump", valued .program), ("--dumps", valued .recorded)]

def ofText (text : Text) : Argument :=
  match spellings.find? (·.1.toList = text) with
  | some (_, argument) => argument
  | none => if text.head? = some '-' then unknown else object

end Argument

inductive ArgumentError where
  | unknownOption (text : Text)
  | unexpected (text : Text)
  | missingValue (option : Text)
  | badLine (value : Text)
  deriving DecidableEq, Repr

def ArgumentError.message : ArgumentError → Text
  | .unknownOption text => "unknown option: ".toList ++ text
  | .unexpected text => "unexpected argument: ".toList ++ text
  | .missingValue option => "option ".toList ++ option ++ " needs a value".toList
  | .badLine value => "invalid line number: ".toList ++ value

structure Options where
  name : Option Text := none
  line : Option UInt64 := none
  source : Option Path := none
  object : Option Path := none
  machine : Option Text := none
  program : Option Path := none
  recorded : Option Path := none
  verbose : Bool := false
  deriving DecidableEq, Repr

/-- What ends the reading of arguments before their end. -/
inductive Stop where
  | help
  | version
  | refused (error : ArgumentError)
  deriving DecidableEq, Repr

namespace Options

def set (options : Options) : Field → Text → Except ArgumentError Options
  | .name, value => .ok { options with name := some value }
  | .line, value =>
    match Numeral.signed? value with
    | some line => .ok { options with line := some line }
    | none => .error (.badLine value)
  | .source, value => .ok { options with source := some value }
  | .machine, value => .ok { options with machine := some value }
  | .program, value => .ok { options with program := some value }
  | .recorded, value => .ok { options with recorded := some value }

/-- Arguments are read from left to right. The last value of an option counts, and there is at most
one object. -/
def read (options : Options) : List Text → Except Stop Options
  | [] => .ok options
  | text :: rest =>
    match Argument.ofText text, rest with
    | .help, _ => .error .help
    | .version, _ => .error .version
    | .verbose, rest => read { options with verbose := true } rest
    | .valued _, [] => .error (.refused (.missingValue text))
    | .valued field, value :: rest =>
      match options.set field value with
      | .ok options => read options rest
      | .error error => .error (.refused error)
    | .unknown, _ => .error (.refused (.unknownOption text))
    | .object, rest =>
      if options.object.isSome then .error (.refused (.unexpected text))
      else read { options with object := some text } rest

def ofArguments (arguments : List Text) : Except Stop Options := read {} arguments

end Options

end LiveRange.CommandLine
