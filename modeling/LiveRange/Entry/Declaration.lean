import LiveRange.Entry.InfoLine
import LiveRange.LocationList.Offset
import LiveRange.SourceTable.Basic
import LiveRange.Text.Lines

/-! The first entry declared at a given line of a given source file. -/

namespace LiveRange

/-- Where an entry is declared, by the table's path, and the location list in effect for it. -/
structure Declaration where
  unit : UnitName
  index : UInt64
  path : Path
  line : UInt64
  location : Option ListOffset
  deriving DecidableEq, Repr

/-- The number spelled by the first word of an attribute's value. -/
def firstNumber? (value : Text) : Option UInt64 := value.words.head?.bind (Numeral.parse? .decimal)

/-- The list that the value of a location attribute names. An expression in place names none. -/
def namedList? (value : Text) : Option ListOffset :=
  if value.mentions "location list" then value.words.head?.bind ListOffset.parse? else none

/-- What the lines so far say about the entry at hand. The unit holds until the next unit header.
A location carries over to later entries until another replaces it. The declaration file is kept
until the next declaration line spends it. Entry headers, once seen, are expected to the end. -/
structure EntryScan where
  unit : Option UnitName := none
  location : Option ListOffset := none
  declFile : Option UInt64 := none
  headersSeen : Bool := false
  ownLocation : Bool := false
  deriving DecidableEq, Repr

/-- The rest of an entry up to the next header, searched for a location of its own. -/
def trailingLocation? : List InfoLine → Option (Option ListOffset)
  | [] => none
  | .unitHeader :: _ | .entryHeader :: _ => none
  | .tracked .location value :: _ => some (namedList? value)
  | _ :: lines => trailingLocation? lines

namespace EntryScan

def step (scan : EntryScan) : InfoLine → EntryScan
  | .unitHeader => { headersSeen := scan.headersSeen }
  | .entryHeader => { scan with headersSeen := true, ownLocation := false }
  | .tracked .stmtList value => { scan with unit := value.words.head?.map UnitName.parse }
  | .tracked .location value => { scan with location := namedList? value, ownLocation := true }
  | .tracked .declFile value => { scan with declFile := firstNumber? value }
  | .tracked .declLine _ => { scan with declFile := none }
  | .other => scan

/-- The location of an entry that the lines after it may still complete. -/
def locationBefore (scan : EntryScan) (lines : List InfoLine) : Option ListOffset :=
  if scan.headersSeen && !scan.ownLocation then (trailingLocation? lines).getD scan.location
  else scan.location

/-- The declaration that a declaration line completes, if it is the one looked for. -/
def complete? (table : SourceTable) (source : Path) (line : UInt64) (scan : EntryScan)
    (value : Text) (later : List InfoLine) : Option Declaration := do
  let unit ← scan.unit
  let index ← scan.declFile
  let declared ← firstNumber? value
  let path ← table.path? unit index
  if path.Same source ∧ declared = line then
    some { unit, index, path, line, location := scan.locationBefore later }
  else none

def find? (table : SourceTable) (source : Path) (line : UInt64) (scan : EntryScan) :
    List InfoLine → Option Declaration
  | [] => none
  | .tracked .declLine value :: later =>
    match scan.complete? table source line value later with
    | some declaration => some declaration
    | none => find? table source line (scan.step (.tracked .declLine value)) later
  | info :: later => find? table source line (scan.step info) later

end EntryScan

namespace Declaration

def find? (dump : Text) (table : SourceTable) (source : Path) (line : UInt64) :
    Option Declaration :=
  EntryScan.find? table source line {} (dump.lines.map InfoLine.ofLine)

end Declaration

end LiveRange
