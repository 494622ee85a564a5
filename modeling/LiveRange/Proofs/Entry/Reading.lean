import LiveRange.Proofs.Entry.LeftmostName
import LiveRange.Text.Lines
import Mathlib.Data.List.Forall2

/-! What each line of a dump of entries says, told by its text. -/

namespace LiveRange

namespace InfoLine

end InfoLine

end LiveRange
