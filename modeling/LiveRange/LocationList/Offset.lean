import LiveRange.Numeral

/-! Offsets of location lists. -/

namespace LiveRange

/-- Where a location list starts in its section, which is how entries refer to it. -/
structure ListOffset where
  value : UInt64
  deriving DecidableEq, Repr

namespace ListOffset

def parse? (token : Text) : Option ListOffset := (Numeral.parse? .decimal token).map ListOffset.mk

def text (list : ListOffset) : Text := Numeral.markedHexadecimal list.value

end ListOffset

end LiveRange
