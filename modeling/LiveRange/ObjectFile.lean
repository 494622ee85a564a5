import LiveRange.ObjectFile.Coff
import LiveRange.ObjectFile.Elf
import LiveRange.ObjectFile.MachO
import LiveRange.ObjectFile.Xcoff

/-! The machine an object file is built for, whatever its format. The first bytes tell the format. -/

namespace LiveRange

inductive ObjectFault where
  | noMagic
  | unknownMagic
  | unknownProgram
  | unknownAnonymous
  | unsupportedFormat
  | elf (fault : ElfFault)
  | coff (fault : CoffFault)
  | machO (fault : MachOFault)
  | xcoff (fault : XcoffFault)
  deriving DecidableEq, Repr

def ObjectFault.message : ObjectFault → Text
  | .noMagic => "Could not read file magic".toList
  | .unknownMagic => "Unknown file magic".toList
  | .unknownProgram => "Unknown MS-DOS file".toList
  | .unknownAnonymous => "Unknown anon object file".toList
  | .unsupportedFormat => "Unsupported file format".toList
  | .elf fault => fault.message
  | .coff fault => fault.message
  | .machO fault => fault.message
  | .xcoff fault => fault.message

/-- A collection holds objects, or stands for some, but is none itself. -/
inductive ObjectFormat where
  | elf (width : Width)
  | coff
  | anonymous
  | program
  | machO (width : Width) (order : ByteOrder)
  | xcoff (width : Width)
  | collection
  deriving DecidableEq, Repr

namespace ObjectFormat

/-- None of these starts another. -/
def magics : List (Bytes × ObjectFormat) :=
  [([0x7F, 0x45, 0x4C, 0x46, 1], elf .narrow),
    ([0x7F, 0x45, 0x4C, 0x46, 2], elf .wide),
    (Utf8.encode "!<arch>\n".toList, collection),
    (Utf8.encode "!<thin>\n".toList, collection),
    (Utf8.encode "dyld_v1 ".toList, collection),
    ([0xCA, 0xFE, 0xBA, 0xBE], collection),
    ([0xCA, 0xFE, 0xBA, 0xBF], collection),
    ([0xFE, 0xED, 0xFA, 0xCE], machO .narrow .big),
    ([0xCE, 0xFA, 0xED, 0xFE], machO .narrow .little),
    ([0xFE, 0xED, 0xFA, 0xCF], machO .wide .big),
    ([0xCF, 0xFA, 0xED, 0xFE], machO .wide .little),
    (Utf8.encode "MZ".toList, program),
    ([0xC4, 0x01], coff),
    ([0x64, 0xAA], coff),
    ([0x41, 0xA6], coff),
    ([0x4C, 0x01], coff),
    ([0x64, 0x86], coff),
    ([0, 0, 0xFF, 0xFF, 0, 0], collection),
    ([0, 0, 0xFF, 0xFF, 2, 0], anonymous),
    ([0x01, 0xDF], xcoff .narrow),
    ([0x01, 0xF7], xcoff .wide)]

def ofContent? (content : Bytes) : Option ObjectFormat :=
  (magics.find? fun (magic, _) => magic.isPrefixOf content).map (·.2)

end ObjectFormat

namespace Machine

def ofFormat (content : Bytes) : ObjectFormat → Except ObjectFault Machine
  | .elf width => (ofElf width content).mapError .elf
  | .coff => (Coff.ofPlain content).mapError .coff
  | .anonymous =>
    if Coff.isLarge content then (Coff.ofLarge content).mapError .coff
    else .error .unknownAnonymous
  | .program =>
    match Coff.imageWidth? content with
    | some width => (Coff.ofImage width content).mapError .coff
    | none => .error .unknownProgram
  | .machO width order => (ofMachO width order content).mapError .machO
  | .xcoff width => (ofXcoff width content).mapError .xcoff
  | .collection => .error .unsupportedFormat

/-- A file of less than 16 bytes tells no format, even if its first bytes would. -/
def ofObject (content : Bytes) : Except ObjectFault Machine :=
  if content.length < 16 then .error .noMagic
  else
    match ObjectFormat.ofContent? content with
    | some format => ofFormat content format
    | none => .error .unknownMagic

/-- The reader of object files that runs get from their host. -/
def inspect (content : Bytes) : Except Text Machine := (ofObject content).mapError (·.message)

end Machine

end LiveRange
