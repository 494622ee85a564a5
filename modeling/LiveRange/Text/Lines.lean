import LiveRange.Text.Blank

/-! Lines of a text: a line feed ends each, with one carriage return before it left out. -/

namespace LiveRange.Text

/-- Leaves out one carriage return at the end. -/
def dropReturn (line : Text) : Text :=
  if line.getLast? = some '\r' then line.dropLast else line

/-- What follows the last line feed is a line of its own unless it is empty, and keeps its
carriage return. -/
def lines (text : Text) : List Text :=
  let pieces := text.splitOn '\n'
  pieces.dropLast.map dropReturn ++ pieces.getLast?.toList.filter (· ≠ [])

end LiveRange.Text
