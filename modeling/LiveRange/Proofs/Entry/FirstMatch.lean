import LiveRange.Proofs.Entry.Reading
import LiveRange.Proofs.Entry.Scan
import LiveRange.Proofs.Text.Words
import Mathlib.Data.List.DropRight

/-! The declaration found told from the lines of a dump, whatever they hold: it is that of the
first declaration line whose unit, file and number are those looked for. -/

namespace LiveRange

variable {α β γ : Type}

namespace InfoLine

/-- The value of a line with the given attribute. -/
def value? (kind : Attribute) : InfoLine → Option Text
  | tracked held value => if held = kind then some value else none
  | _ => none

def opensEntry : InfoLine → Bool
  | unitHeader | entryHeader => true
  | _ => false

end InfoLine

section Lines

variable (lines : List InfoLine)

end Lines

namespace EntryScan

section Fields

variable (lines : List InfoLine)

theorem headersSeen_foldl_iff :
    (lines.foldl step {}).headersSeen = true ↔ .entryHeader ∈ lines := by
  induction lines using List.reverseRecOn with
  | nil => simp
  | append_singleton lines info ih =>
      rw [List.foldl_append, List.foldl_cons, List.foldl_nil, List.mem_append,
        List.mem_singleton, ← ih]
      rcases info with _ | _ | ⟨_ | _ | _ | _, _⟩ | _ <;> simp [step]

end Fields

theorem trailingLocation?_eq (later : List InfoLine) :
    trailingLocation? later =
      ((later.takeWhile (!·.opensEntry)).findSome? (InfoLine.value? .location)).map
        namedList? := by
  induction later with
  | nil => rfl
  | cons info later ih =>
      rcases info with _ | _ | ⟨_ | _ | _ | _, _⟩ | _
      case tracked.location => rfl
      all_goals first | rfl | exact ih

section Positions

variable {table : SourceTable} {source : Path} {line : UInt64}

end Positions

end EntryScan

section Values

end Values

namespace EntryScan

variable {dump : Text} {table : SourceTable} {source : Path} {line : UInt64}

end EntryScan

namespace Declaration

end Declaration

end LiveRange
