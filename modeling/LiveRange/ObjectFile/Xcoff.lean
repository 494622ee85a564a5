import LiveRange.Machine
import LiveRange.ObjectFile.Fields

/-! XCOFF files, all of them for PowerPC. -/

namespace LiveRange

inductive XcoffFault where
  | headerSize
  | auxiliaryHeader
  | sectionHeaders
  | symbols
  | strings
  deriving DecidableEq, Repr

def XcoffFault.message : XcoffFault → Text
  | .headerSize => "Invalid XCOFF header size or alignment".toList
  | .auxiliaryHeader => "Invalid XCOFF auxiliary header size".toList
  | .sectionHeaders => "Invalid XCOFF section headers".toList
  | .symbols => "Invalid XCOFF symbol table offset or size".toList
  | .strings => "Missing XCOFF string table".toList

namespace Xcoff

def field (content : Bytes) (offset size : Nat) : Nat := content.field .big offset size

def headerSize : Width → Nat
  | .narrow => 20
  | .wide => 24

def auxiliarySize : Width → Nat
  | .narrow => 72
  | .wide => 120

def sectionSize : Width → Nat
  | .narrow => 40
  | .wide => 72

/-- Where the number of symbols stands in the header. -/
def symbolCountOffset : Width → Nat
  | .narrow => 12
  | .wide => 20

/-- Only a whole auxiliary header of something that can be run counts. -/
def checkAuxiliary (width : Width) (content : Bytes) : Except XcoffFault Unit :=
  if (field content 18 2).testBit 1 && field content 16 2 == auxiliarySize width &&
      !content.holds (headerSize width) (auxiliarySize width) then .error .auxiliaryHeader
  else .ok ()

/-- The sections follow the headers. Where there are none, their place does not matter. -/
def checkSections (width : Width) (content : Bytes) : Except XcoffFault Unit :=
  let count := field content 2 2
  if count = 0 then .ok ()
  else if content.holds (headerSize width + field content 16 2) (sectionSize width * count) then
    .ok ()
  else .error .sectionHeaders

/-- A table at offset zero is none. The strings follow the symbols, their length first. -/
def checkSymbols (width : Width) (content : Bytes) : Except XcoffFault Unit :=
  let offset := field content 8 width.size
  let size := 18 * field content (symbolCountOffset width) 4
  if offset = 0 then .ok ()
  else if !content.holds offset size then .error .symbols
  else if content.holds (offset + size) 4 then .ok ()
  else .error .strings

end Xcoff

open Xcoff in
def Machine.ofXcoff (width : Width) (content : Bytes) : Except XcoffFault Machine := do
  if content.length < headerSize width then throw .headerSize
  checkAuxiliary width content
  checkSections width content
  checkSymbols width content
  return match width with
    | .narrow => .powerPc
    | .wide => .powerPc64

end LiveRange
