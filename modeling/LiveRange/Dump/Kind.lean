import LiveRange.Text.Blank

/-! The kinds of dump that say where a variable lives. -/

namespace LiveRange.Dump

/-- Line programs, debugging information entries and location lists. -/
inductive Kind where
  | rawline
  | info
  | loc
  deriving DecidableEq, Repr

namespace Kind

def name : Kind → Text
  | rawline => "rawline".toList
  | info => "info".toList
  | loc => "loc".toList

/-- The option that asks a dumping program for this kind. -/
def option (kind : Kind) : Text := "--dwarf=".toList ++ kind.name

/-- The file a dump of this kind is recorded in. -/
def fileName (kind : Kind) : Text := kind.name ++ ".txt".toList

end Kind

end LiveRange.Dump
