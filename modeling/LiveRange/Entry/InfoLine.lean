import LiveRange.Numeral
import LiveRange.Text.DecimalDigit
import LiveRange.Text.Search
import LiveRange.Text.WordChar

/-! Lines of a dump of debugging information entries, told apart by what they say of an entry. -/

namespace LiveRange

/-- The attributes that decide where an entry is declared and located. -/
inductive Attribute where
  | stmtList
  | location
  | declFile
  | declLine
  deriving DecidableEq, Repr

namespace Attribute

def name : Attribute → String
  | stmtList => "DW_AT_stmt_list"
  | location => "DW_AT_location"
  | declFile => "DW_AT_decl_file"
  | declLine => "DW_AT_decl_line"

def all : List Attribute := [stmtList, location, declFile, declLine]

def ofName? (text : Text) : Option Attribute := all.find? (·.name.toList = text)

end Attribute

/-- The attribute name at the very start of a text, and the value behind its colon. A name runs on
to the last word character. -/
def namedValue? (text : Text) : Option (Text × Text) := do
  let tail ← text.after? "DW_AT_"
  let rest ← tail.afterRun? isWordChar
  let value ← rest.trimStart.after? ":"
  return (text.takeWhile isWordChar, value.trimStart)

/-- The leftmost attribute name of a text that no word character stands before. -/
def firstNamedValue? (afterWord : Bool) : Text → Option (Text × Text)
  | [] => none
  | c :: rest =>
    match if afterWord then none else namedValue? (c :: rest) with
    | some found => some found
    | none => firstNamedValue? (isWordChar c) rest

namespace Attribute

/-- Only the leftmost attribute name of a line counts, be it one of these or not. -/
def ofLine? (line : Text) : Option (Attribute × Text) := do
  let (name, value) ← firstNamedValue? false line
  let kind ← ofName? name
  return (kind, value)

end Attribute

def isUnitHeader (line : Text) : Bool := line.trimStart.startsWith "Compilation Unit @ offset"

/-- Nesting depth and offset in angle brackets, then the abbreviation number. -/
def isEntryHeader (line : Text) : Bool := Option.isSome do
  let rest ← line.trimStart.after? "<"
  let rest ← rest.afterRun? isDecimalDigit
  let rest ← rest.after? "><"
  let rest ← rest.afterRun? Numeral.isHexDigit
  rest.after? ">: Abbrev Number:"

inductive InfoLine where
  | unitHeader
  | entryHeader
  | tracked (kind : Attribute) (value : Text)
  | other
  deriving DecidableEq, Repr

namespace InfoLine

def ofLine (line : Text) : InfoLine :=
  if isUnitHeader line then .unitHeader
  else if isEntryHeader line then .entryHeader
  else
    match Attribute.ofLine? line with
    | some (kind, value) => .tracked kind value
    | none => .other

end InfoLine

end LiveRange
