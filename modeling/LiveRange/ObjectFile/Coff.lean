import LiveRange.Machine
import LiveRange.ObjectFile.Fields

/-! COFF objects, with a plain or a large header, and the PE images that start as a DOS program. -/

namespace LiveRange

inductive CoffFault where
  | headerSize
  | largeHeaderSize
  | imageHeaders
  | optionalSize
  | optionalHeader
  | directories
  | sectionHeaders
  | symbols
  | strings
  deriving DecidableEq, Repr

def CoffFault.message : CoffFault → Text
  | .headerSize => "Invalid COFF file header size or alignment".toList
  | .largeHeaderSize => "Invalid COFF bigobj file header size or alignment".toList
  | .imageHeaders => "Invalid PE headers offset or size".toList
  | .optionalSize => "PE optional header size is too small".toList
  | .optionalHeader => "Invalid PE optional header size".toList
  | .directories => "Invalid PE number of RVA and sizes".toList
  | .sectionHeaders => "Invalid COFF/PE section headers".toList
  | .symbols => "Invalid COFF symbol table offset or size".toList
  | .strings => "Missing COFF string table".toList

namespace Coff

def field (content : Bytes) (offset size : Nat) : Nat := content.field .little offset size

def machine : Nat → Machine
  | 0x1C4 => .arm
  | 0xAA64 | 0xA641 => .aarch64
  | 0x14C => .i386
  | 0x8664 => .x8664
  | _ => .other

def checkSections (content : Bytes) (offset count : Nat) : Except CoffFault Unit :=
  if content.holds offset (40 * count) then .ok () else .error .sectionHeaders

/-- A table at offset zero is none. The strings follow the symbols, their length first. -/
def checkSymbols (content : Bytes) (offset count size : Nat) : Except CoffFault Unit :=
  if offset = 0 then .ok ()
  else if !content.holds offset (count * size) then .error .symbols
  else if content.holds (offset + count * size) 4 then .ok ()
  else .error .strings

/-- The sections follow the header and a second, optional one. -/
def ofPlain (content : Bytes) : Except CoffFault Machine := do
  if content.length < 20 then throw .headerSize
  checkSections content (20 + field content 16 2) (field content 2 2)
  checkSymbols content (field content 8 4) (field content 12 4) 18
  return machine (field content 0 2)

/-- The class that an object without a name of its own has if it is one with many sections. -/
def largeClass : Bytes :=
  [0xC7, 0xA1, 0xBA, 0xD1, 0xEE, 0xBA, 0xA9, 0x4B, 0xAF, 0x20, 0xFA, 0xF6, 0x6A, 0xA4, 0xDC, 0xB8]

def isLarge (content : Bytes) : Bool :=
  content.holds 0 32 && (content.drop 12).take 16 == largeClass

def ofLarge (content : Bytes) : Except CoffFault Machine := do
  if content.length < 56 then throw .largeHeaderSize
  checkSections content 56 (field content 44 4)
  checkSymbols content (field content 48 4) (field content 52 4) 20
  return machine (field content 6 2)

/-- The size of an image's headers up to the directories: a signature of 4 bytes, the 20 of an
object's header, and the fixed part of the optional one. -/
def imageHeaderSize : Width → Nat
  | .narrow => 120
  | .wide => 136

def imageOffset (content : Bytes) : Nat := field content 60 4

/-- The width of the image that a DOS program carries. -/
def imageWidth? (content : Bytes) : Option Width :=
  let offset := imageOffset content
  if content.length < 64 ∨ !content.holds offset (imageHeaderSize .narrow) then none
  else if field content offset 4 ≠ 0x4550 then none
  else
    match field content (offset + 24) 2 with
    | 0x10B => some .narrow
    | 0x20B => some .wide
    | _ => none

/-- The optional header ends with directories of 8 bytes each. The symbols of an image do not count,
so they are not looked at. -/
def ofImage (width : Width) (content : Bytes) : Except CoffFault Machine := do
  let offset := imageOffset content
  let directories := offset + imageHeaderSize width
  if !content.holds offset (imageHeaderSize width) then throw .imageHeaders
  let optional := field content (offset + 20) 2 + 24
  if optional < imageHeaderSize width then throw .optionalSize
  if !content.holds offset optional then throw .optionalHeader
  if optional < imageHeaderSize width + 8 * field content (directories - 4) 4 then
    throw .directories
  checkSections content (offset + optional) (field content (offset + 6) 2)
  return machine (field content (offset + 4) 2)

end Coff

end LiveRange
