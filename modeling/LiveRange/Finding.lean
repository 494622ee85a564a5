import LiveRange.Entry.Declaration
import LiveRange.LocationList.Ranges
import LiveRange.SourceTable.LineDump

/-! From three dumps of an object file to the address ranges of a declared variable. -/

namespace LiveRange

/-- What dumps say of a variable declared at a given place. -/
inductive Finding where
  | ranges (declaration : Declaration) (list : ListOffset) (ranges : List AddressRange)
  | noRanges (declaration : Declaration) (list : ListOffset)
  | noLocationList (declaration : Declaration)
  | notDeclared
  deriving DecidableEq, Repr

/-- The line programs, the debugging information entries and the location lists of one object. -/
structure Dumps where
  lines : Text
  info : Text
  locations : Text
  deriving DecidableEq, Repr

namespace Dumps

def finding (dumps : Dumps) (source : Path) (line : UInt64) : Finding :=
  match Declaration.find? dumps.info (SourceTable.ofLineDump dumps.lines) source line with
  | none => .notDeclared
  | some declaration =>
    match declaration.location with
    | none => .noLocationList declaration
    | some list =>
      match LocationList.ranges dumps.locations list with
      | [] => .noRanges declaration list
      | ranges => .ranges declaration list ranges

/-- A finding takes one reading of each dump. -/
theorem finding_congr {dumps other : Dumps}
    (table : SourceTable.ofLineDump dumps.lines = SourceTable.ofLineDump other.lines)
    (declaration : ∀ table source line, Declaration.find? dumps.info table source line =
      Declaration.find? other.info table source line)
    (ranges : ∀ list, LocationList.ranges dumps.locations list =
      LocationList.ranges other.locations list) (source : Path) (line : UInt64) :
    dumps.finding source line = other.finding source line := by
  simp only [finding, table, declaration, ranges]

end Dumps

end LiveRange
