import LiveRange.Machine
import LiveRange.ObjectFile.Fields

/-! ELF files: the machine they are built for, once their tables are found to be in place. -/

namespace LiveRange

inductive ElfFault where
  | headerSize
  | unsupportedHeader
  | programCount
  | programEntrySize
  | programHeaders
  | sectionEntrySize
  | firstSection
  | sectionHeaders
  | noNames
  | namesIndex
  | namesSize
  | symbols
  | sectionIndex
  | stringsKind
  | stringsSize
  | symbolSections
  | relocatedSection
  | relocatedRelocations
  deriving DecidableEq, Repr

def ElfFault.message : ElfFault → Text
  | .headerSize => "Invalid ELF header size or alignment".toList
  | .unsupportedHeader => "Unsupported ELF header".toList
  | .programCount => "Missing ELF section headers for e_phnum overflow".toList
  | .programEntrySize => "Invalid ELF program header entry size".toList
  | .programHeaders => "Invalid ELF program header size or alignment".toList
  | .sectionEntrySize => "Invalid ELF section header entry size".toList
  | .firstSection => "Invalid ELF section header offset or size".toList
  | .sectionHeaders => "Invalid ELF section header offset/size/alignment".toList
  | .noNames => "Missing ELF e_shstrndx".toList
  | .namesIndex => "Invalid ELF e_shstrndx".toList
  | .namesSize => "Invalid ELF shstrtab size".toList
  | .symbols => "Invalid ELF symbol table data".toList
  | .sectionIndex => "Invalid ELF section index".toList
  | .stringsKind => "Invalid ELF string section type".toList
  | .stringsSize => "Invalid ELF string section offset or size".toList
  | .symbolSections => "Invalid ELF symtab_shndx data".toList
  | .relocatedSection => "Invalid ELF sh_info for relocation section".toList
  | .relocatedRelocations => "Unsupported ELF sh_info for relocation section".toList

inductive ElfSection.Kind where
  | symbols
  | strings
  | relocations
  | empty
  | dynamicSymbols
  | symbolSections
  | other
  deriving DecidableEq, Repr

def ElfSection.Kind.ofCode : Nat → ElfSection.Kind
  | 2 => symbols
  | 3 => strings
  | 4 | 9 => relocations
  | 8 => empty
  | 11 => dynamicSymbols
  | 18 => symbolSections
  | _ => other

/-- What a section header tells. For the kinds named here, the link and the information are numbers
of other sections. -/
structure ElfSection where
  kind : ElfSection.Kind
  offset : Nat
  size : Nat
  link : Nat
  info : Nat
  deriving DecidableEq, Repr

/-- Whether the section ends at an offset that 64 bits can hold. -/
def ElfSection.ends (part : ElfSection) : Bool := part.offset + part.size < UInt64.size

structure ElfFile where
  content : Bytes
  width : Width
  order : ByteOrder

namespace ElfFile

/-- Three fields of the header have the size of an address. -/
def headerSize (width : Width) : Nat := 40 + 3 * width.size

def programHeaderSize : Width → Nat
  | .narrow => 32
  | .wide => 56

def sectionHeaderSize (width : Width) : Nat := 16 + 6 * width.size

def symbolSize (width : Width) : Nat := 8 + 2 * width.size

def ofContent (width : Width) (content : Bytes) : Except ElfFault ElfFile :=
  if content.length < headerSize width then .error .headerSize
  else
    match content.drop 5 with
    | 1 :: 1 :: _ => .ok { content, width, order := .little }
    | 2 :: 1 :: _ => .ok { content, width, order := .big }
    | _ => .error .unsupportedHeader

def field (file : ElfFile) (offset size : Nat) : Nat := file.content.field file.order offset size

def machineCode (file : ElfFile) : Nat := file.field 18 2

def programOffset (file : ElfFile) : Nat := file.field (24 + file.width.size) file.width.size

def sectionOffset (file : ElfFile) : Nat := file.field (24 + 2 * file.width.size) file.width.size

/-- A field among those behind the addresses of the header. -/
def laterField (file : ElfFile) (offset size : Nat) : Nat :=
  file.field (24 + 3 * file.width.size + offset) size

def flags (file : ElfFile) : Nat := file.laterField 0 4

def programEntrySize (file : ElfFile) : Nat := file.laterField 6 2

def programCount (file : ElfFile) : Nat := file.laterField 8 2

def sectionEntrySize (file : ElfFile) : Nat := file.laterField 10 2

def sectionCount (file : ElfFile) : Nat := file.laterField 12 2

def namesIndex (file : ElfFile) : Nat := file.laterField 14 2

/-- Stands in a field of the header for a value that the first section header keeps. -/
def kept : Nat := 0xFFFF

def sectionAt (file : ElfFile) (offset : Nat) : ElfSection :=
  let size := file.width.size
  { kind := ElfSection.Kind.ofCode (file.field (offset + 4) 4)
    offset := file.field (offset + 8 + 2 * size) size
    size := file.field (offset + 8 + 3 * size) size
    link := file.field (offset + 8 + 4 * size) 4
    info := file.field (offset + 12 + 4 * size) 4 }

/-- The section header that keeps what is too large for the header, if there are sections. -/
def firstSection? (file : ElfFile) : Except ElfFault (Option ElfSection) :=
  if file.sectionOffset = 0 then .ok none
  else if file.sectionEntrySize ≠ sectionHeaderSize file.width then .error .sectionEntrySize
  else if file.content.holds file.sectionOffset (sectionHeaderSize file.width) then
    .ok (some (file.sectionAt file.sectionOffset))
  else .error .firstSection

def programTotal (file : ElfFile) : Except ElfFault Nat := do
  if file.programCount < kept then return file.programCount
  match ← file.firstSection? with
  | some first => return first.info
  | none => throw .programCount

def checkPrograms (file : ElfFile) : Except ElfFault Unit := do
  if file.programOffset = 0 then return
  let total ← file.programTotal
  if total = 0 then return
  if file.programEntrySize ≠ programHeaderSize file.width then throw .programEntrySize
  unless file.content.holds file.programOffset (total * programHeaderSize file.width) do
    throw .programHeaders

def sectionTotal (file : ElfFile) : Except ElfFault Nat := do
  if 0 < file.sectionCount then return file.sectionCount
  match ← file.firstSection? with
  | some first => return first.size
  | none => return 0

def sections (file : ElfFile) : Except ElfFault (List ElfSection) := do
  if file.sectionOffset = 0 then return []
  let total ← file.sectionTotal
  if total = 0 then return []
  let size := sectionHeaderSize file.width
  if file.sectionEntrySize ≠ size then throw .sectionEntrySize
  unless file.content.holds file.sectionOffset (total * size) do throw .sectionHeaders
  return (List.range total).map fun number => file.sectionAt (file.sectionOffset + number * size)

/-- The section that holds the names of the sections has to be one of them, and not the first. -/
def checkNames (file : ElfFile) : List ElfSection → Except ElfFault Unit
  | [] => .ok ()
  | first :: rest =>
    let number := if file.namesIndex = kept then first.link else file.namesIndex
    if number = 0 then .error .noNames
    else
      match (first :: rest)[number]? with
      | none => .error .namesIndex
      | some names => if names.kind = .empty ∨ names.ends then .ok () else .error .namesSize

/-- Whether a section is there and made of whole records. -/
def holdsRecords (file : ElfFile) (size : Nat) (part : ElfSection) : Bool :=
  file.content.holds part.offset part.size && part.size % size == 0

/-- The strings of a symbol table. Number zero stands for none. -/
def checkStrings (sections : List ElfSection) (number : Nat) : Except ElfFault Unit :=
  if number = 0 then .ok ()
  else
    match sections[number]? with
    | none => .error .sectionIndex
    | some strings =>
      if strings.kind ≠ .strings then .error .stringsKind
      else if strings.ends then .ok ()
      else .error .stringsSize

/-- The number of the first symbol table of a kind, whose strings and long section numbers have to
be there with it. Zero if there is none. -/
def symbolTable (file : ElfFile) (sections : List ElfSection) (kind : ElfSection.Kind) :
    Except ElfFault Nat := do
  match sections.zipIdx.find? fun (part, _) => part.kind = kind with
  | none => return 0
  | some (table, number) =>
    unless file.holdsRecords (symbolSize file.width) table do throw .symbols
    checkStrings sections table.link
    let extensions := sections.filter fun part => part.kind = .symbolSections ∧ part.link = number
    unless extensions.all (file.holdsRecords 4) do throw .symbolSections
    return number

/-- Relocations apply to a section that holds none itself. -/
def checkRelocated (sections : List ElfSection) (number : Nat) : Except ElfFault Unit :=
  match sections[number]? with
  | none => .error .relocatedSection
  | some target => if target.kind = .relocations then .error .relocatedRelocations else .ok ()

/-- Looks at the relocations by the symbols of a table, the last ones first. Number zero stands for
those that apply to the file as a whole. -/
def checkRelocations (sections : List ElfSection) (table : Nat) : Except ElfFault Unit :=
  let applied := sections.filter fun part =>
    part.kind = .relocations ∧ part.link = table ∧ part.info ≠ 0
  applied.reverse.forM fun part => checkRelocated sections part.info

/-- A flag marks MIPS code for wide registers and narrow addresses, a machine apart. -/
def machine (file : ElfFile) : Machine :=
  match file.machineCode, file.width with
  | 3, _ => .i386
  | 8, .narrow => if file.flags.testBit 5 then .other else .mips
  | 8, .wide => .mips64
  | 20, _ => .powerPc
  | 21, _ => .powerPc64
  | 40, _ => .arm
  | 62, .narrow => .x8664Narrow
  | 62, .wide => .x8664
  | 183, .narrow => .aarch64Narrow
  | 183, .wide => .aarch64
  | 243, .narrow => .riscv32
  | 243, .wide => .riscv64
  | _, _ => .other

end ElfFile

def Machine.ofElf (width : Width) (content : Bytes) : Except ElfFault Machine := do
  let file ← ElfFile.ofContent width content
  file.checkPrograms
  let sections ← file.sections
  file.checkNames sections
  let table ← file.symbolTable sections .symbols
  discard (file.symbolTable sections .dynamicSymbols)
  ElfFile.checkRelocations sections table
  return file.machine

end LiveRange
