import LiveRange.Machine
import LiveRange.ObjectFile.Fields

/-! Mach-O files: a header and load commands, some of which place sections and symbols. -/

namespace LiveRange

inductive MachOFault where
  | headerSize
  | commandSize
  | sectionCount
  | symbols
  deriving DecidableEq, Repr

def MachOFault.message : MachOFault → Text
  | .headerSize => "Invalid Mach-O header size or alignment".toList
  | .commandSize => "Invalid Mach-O command size".toList
  | .sectionCount => "Invalid Mach-O number of sections".toList
  | .symbols => "Invalid Mach-O symbol table offset or size".toList

structure MachOFile where
  content : Bytes
  width : Width
  order : ByteOrder

namespace MachOFile

def headerSize : Width → Nat
  | .narrow => 28
  | .wide => 32

def machine (file : MachOFile) : Machine :=
  match file.content.field file.order 4 4 with
  | 7 => .i386
  | 8 => .mips
  | 12 => .arm
  | 18 => .powerPc
  | 0x1000007 => .x8664
  | 0x100000C => .aarch64
  | 0x1000012 => .powerPc64
  | 0x200000C => .aarch64Narrow
  | _ => .other

/-- The load commands, at most as many as counted, up to the first that does not fit. Each starts
with its kind and its size. -/
def commandsIn (order : ByteOrder) : Nat → Bytes → List Bytes
  | 0, _ => []
  | count + 1, bytes =>
    let size := bytes.field order 4 4
    if bytes.length < 8 ∨ size < 8 ∨ bytes.length < size then []
    else bytes.take size :: commandsIn order count (bytes.drop size)

/-- There are none if the room set apart for them is not there. -/
def commands (file : MachOFile) : List Bytes :=
  let room := file.content.field file.order 20 4
  if file.content.holds (headerSize file.width) room then
    commandsIn file.order (file.content.field file.order 16 4)
      ((file.content.drop (headerSize file.width)).take room)
  else []

/-- The kind of the command that places a segment. -/
def segmentKind : Width → Nat
  | .narrow => 1
  | .wide => 25

def segmentSize (width : Width) : Nat := 40 + 4 * width.size

def sectionSize : Width → Nat
  | .narrow => 68
  | .wide => 80

def symbolSize (width : Width) : Nat := 8 + width.size

/-- A segment's sections follow in its command. -/
def checkSegment (file : MachOFile) (command : Bytes) : Except MachOFault Unit :=
  let size := segmentSize file.width
  if command.length < size then .error .commandSize
  else if command.holds size (sectionSize file.width * command.field file.order (size - 8) 4) then
    .ok ()
  else .error .sectionCount

/-- The symbols stand elsewhere in the file. -/
def checkSymbols (file : MachOFile) (command : Bytes) : Except MachOFault Unit :=
  if command.length < 24 then .error .commandSize
  else
    let count := command.field file.order 12 4
    if file.content.holds (command.field file.order 8 4) (symbolSize file.width * count) then .ok ()
    else .error .symbols

def checkCommand (file : MachOFile) (command : Bytes) : Except MachOFault Unit :=
  let kind := command.field file.order 0 4
  if kind = segmentKind file.width then file.checkSegment command
  else if kind = 2 then file.checkSymbols command
  else .ok ()

end MachOFile

def Machine.ofMachO (width : Width) (order : ByteOrder) (content : Bytes) :
    Except MachOFault Machine := do
  let file : MachOFile := { content, width, order }
  if content.length < MachOFile.headerSize width then throw .headerSize
  file.commands.forM file.checkCommand
  return file.machine

end LiveRange
