import LiveRange.Numeral

/-! Names of line-number programs. -/

namespace LiveRange

/-- The token a unit and its line-number program share. A numeric token is known by its value, so
that every spelling of one offset names the same program. Any other token is kept as it stands. -/
inductive UnitName where
  | offset (value : UInt64)
  | verbatim (token : Text)
  deriving DecidableEq, Repr

namespace UnitName

def parse (token : Text) : UnitName :=
  match Numeral.parse? .decimal token with
  | some value => .offset value
  | none => .verbatim token.trim

def text : UnitName → Text
  | .offset value => Numeral.markedHexadecimal value
  | .verbatim token => token

end UnitName

end LiveRange
