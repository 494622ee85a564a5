import LiveRange.SourceTable.Basic
import LiveRange.Text.Lines
import LiveRange.Text.Search

/-! Reading the directory and file tables of every line-number program from a dump of them. -/

namespace LiveRange

/-- A line of the dump that opens or closes something. -/
inductive Marker where
  | unit (token : Text)
  | directories
  | files
  | statements
  deriving DecidableEq, Repr

namespace Marker

/-- The word after the offset mark of a program header. -/
def unitToken? (line : Text) : Option Text := do
  let rest ← line.trimStart.after? "Offset:"
  let rest ← rest.afterRun? isBlank
  if rest = [] then none else some (rest.takeWhile (!isBlank ·))

def ofLine? (line : Text) : Option Marker :=
  let opening := line.trimStart
  match unitToken? line with
  | some token => some (.unit token)
  | none =>
    if opening.startsWith "The Directory Table" then some .directories
    else if opening.startsWith "The File Name Table" then some .files
    else if opening.startsWith "Line Number Statements" then some .statements
    else if opening.startsWith "No Line Number Statements" then some .statements
    else none

end Marker

/-- The positions of a file row's directory and name, the index being its first field. Without a
header row they are those of the older layout. -/
structure Columns where
  dir : Nat := 1
  name : Nat := 4
  deriving DecidableEq, Repr

structure FileRow where
  index : UInt64
  directory : UInt64
  name : Text
  deriving DecidableEq, Repr

/-- Leaves out the note that tells where an indirect string is stored. -/
def plainName (field : Text) : Text :=
  let name := field.trimEnd
  (afterNote? name).getD name
where
  afterNote? (name : Text) : Option Text := do
    let rest ← name.after? "(indirect "
    let rest ← ((rest.after? "line ").getD rest).after? "string, offset: 0x"
    let rest ← rest.afterRun? Numeral.isHexDigit
    let rest ← rest.after? "):"
    return rest.trimStart

namespace Columns

/-- The positions a header row tells, unless the directory does not stand before the name. -/
def ofHeader? (header : Text) : Option Columns := do
  let titles := header.words
  let dir ← titles.idxOf? "Dir".toList
  let name ← titles.idxOf? "Name".toList
  if dir < name then some { dir, name } else none

/-- The name is the last field and takes the rest of the row. -/
def fileRow? (columns : Columns) (line : Text) : Option FileRow := do
  let fields := line.fields (columns.name + 1)
  let index ← Numeral.parse? .decimal (← fields[0]?)
  let directory ← Numeral.parse? .decimal (← fields[columns.dir]?)
  let name ← fields[columns.name]?
  return { index, directory, name := plainName name }

end Columns

/-- Which table the rows at hand belong to. -/
inductive Region where
  | outside
  | directories
  | files
  deriving DecidableEq, Repr

/-- What has been read so far. Directories and files are those of the current program, the latest
first, and reach the table when the program ends. -/
structure LineScan where
  table : SourceTable := .empty
  unit : Option UnitName := none
  region : Region := .outside
  columns : Columns := {}
  directories : List (UInt64 × Text) := []
  files : List (UInt64 × Path) := []

namespace LineScan

/-- The table with the files of the current program. Files outside every program are dropped. -/
def finish (scan : LineScan) : SourceTable :=
  match scan.unit with
  | none => scan.table
  | some unit =>
    scan.files.foldr (fun file table => table.insert { unit, index := file.1 } file.2) scan.table

def directoryRow (scan : LineScan) (line : Text) : LineScan :=
  match line.fields 2 with
  | [first, name] =>
    match Numeral.parse? .decimal first with
    | some index => { scan with directories := (index, plainName name) :: scan.directories }
    | none => scan
  | _ => scan

/-- A file whose directory is not listed before it is left out. -/
def fileRow (scan : LineScan) (line : Text) : LineScan :=
  if line.trimStart.startsWith "Entry" then
    { scan with columns := (Columns.ofHeader? line).getD scan.columns }
  else
    match scan.columns.fileRow? line with
    | none => scan
    | some row =>
      match scan.directories.lookup row.directory with
      | none => scan
      | some directory =>
        { scan with files := (row.index, Path.join directory row.name) :: scan.files }

/-- A program header starts afresh and keeps nothing but the finished table. -/
def step (scan : LineScan) (line : Text) : LineScan :=
  match Marker.ofLine? line with
  | some (.unit token) => { table := scan.finish, unit := some (UnitName.parse token) }
  | some .directories => { scan with region := .directories }
  | some .files => { scan with region := .files }
  | some .statements => { scan with region := .outside }
  | none =>
    match scan.region with
    | .outside => scan
    | .directories => scan.directoryRow line
    | .files => scan.fileRow line

end LineScan

namespace SourceTable

def ofLineDump (dump : Text) : SourceTable := (dump.lines.foldl LineScan.step {}).finish

end SourceTable

end LiveRange
