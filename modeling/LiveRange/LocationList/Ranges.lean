import LiveRange.LocationList.Offset
import LiveRange.Text.Lines
import LiveRange.Text.Search

/-! The address ranges of one location list, read from a dump of all lists. -/

namespace LiveRange

/-- Addresses from `start` up to `stop`, the latter left out. -/
structure AddressRange where
  start : UInt64
  stop : UInt64
  deriving DecidableEq, Repr

def AddressRange.text (range : AddressRange) : Text :=
  Numeral.hexadecimal range.start ++ " -- ".toList ++ Numeral.hexadecimal range.stop

/-- The range spelled by the first two words of a text. -/
def AddressRange.leading? (text : Text) : Option AddressRange :=
  match text.words with
  | first :: second :: _ => do
    let start ← Numeral.parse? .hexadecimal first
    let stop ← Numeral.parse? .hexadecimal second
    return { start, stop }
  | _ => none

namespace LocationList

/-- A line of the dump that is not blank: its first word, and what follows it. -/
structure Row where
  line : Text
  first : Text
  rest : Text
  deriving DecidableEq, Repr

namespace Row

def ofLine? (line : Text) : Option Row :=
  match line.fields 2 with
  | [] => none
  | first :: rest => some { line, first, rest := rest.headD [] }

def closes (row : Row) : Bool := row.line.mentions "<End of list>"

/-- A list opens at the row that carries its offset. The closing row of an empty list carries an
offset too, and opens nothing. -/
def opens (list : ListOffset) (row : Row) : Bool :=
  !row.closes && Numeral.parse? .hexadecimal row.first == some list.value

/-- A row that announces a view pair leaves its range to the next row. -/
def announces (row : Row) : Bool := row.rest.mentions "views at"

/-- The range of a row inside an open list. Begin and end follow the offset, except that a row of
two words, or one announced by the row before it, has no offset. Base addresses are no ranges. -/
def range? (announced : Bool) (row : Row) : Option AddressRange :=
  if row.rest.mentions "(base address)" then none
  else if announced || row.line.words.length == 2 then AddressRange.leading? row.line
  else AddressRange.leading? row.rest

end Row

/-- How far a list has been read. Inside of it, the row before may have announced a view pair. -/
inductive Phase where
  | seeking
  | inside (announced : Bool)
  | closed
  deriving DecidableEq, Repr

/-- What the rows so far have come to. -/
structure RangeScan where
  phase : Phase := .seeking
  ranges : List AddressRange := []
  deriving DecidableEq, Repr

namespace RangeScan

/-- The first list that opens at the offset is read up to the next closing row. Its opening row may
carry the first range itself. -/
def read (list : ListOffset) (scan : RangeScan) (row : Row) : RangeScan :=
  match scan.phase with
  | .seeking =>
    if row.opens list then
      { phase := .inside row.announces
        ranges := scan.ranges ++ (AddressRange.leading? row.rest).toList }
    else scan
  | .inside announced =>
    if row.closes then { scan with phase := .closed }
    else
      { phase := .inside row.announces, ranges := scan.ranges ++ (row.range? announced).toList }
  | .closed => scan

def step (list : ListOffset) (scan : RangeScan) (line : Text) : RangeScan :=
  match Row.ofLine? line with
  | none => scan
  | some row => scan.read list row

end RangeScan

def ranges (dump : Text) (list : ListOffset) : List AddressRange :=
  (dump.lines.foldl (RangeScan.step list) {}).ranges

end LocationList

end LiveRange
