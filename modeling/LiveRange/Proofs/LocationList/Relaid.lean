import LiveRange.Proofs.LocationList.Respelled
import LiveRange.Proofs.Text.Relaid

/-! The ranges of a list do not depend on the layout of its dump. -/

namespace LiveRange

namespace LocationList

theorem Row.alike_of_sameInside {line other : Text} (same : line.SameInside other)
    (first rest : Text) : Row.Alike { line, first, rest } { line := other, first, rest } := by
  have closing : line.mentions "<End of list>" = other.mentions "<End of list>" :=
    same.mentions_eq (by decide)
  refine ⟨?_, closing, rfl, ?_, rfl⟩
  · intro list
    rw [opens, opens, closes, closes, closing]
  · intro announced
    simp only [range?, AddressRange.leading?, same.words_eq]

theorem Row.rel_ofLine? {line other : Text} (same : line.SameInside other) :
    Option.Rel Row.Alike (ofLine? line) (ofLine? other) := by
  rw [ofLine?, ofLine?, same.fields_eq]
  cases other.fields 2 with
  | nil => exact .none
  | cons first rest => exact .some (alike_of_sameInside same first _)

theorem rows_filledLines (dump : Text) : dump.filledLines.filterMap Row.ofLine? = rows dump := by
  rw [Text.filledLines, List.filterMap_filter, rows]
  congr 1
  funext line
  by_cases blank : line.trim = []
  · simp [blank, Row.ofLine?_of_blank (Text.trim_eq_nil_iff.mp blank)]
  · simp [blank]

theorem ranges_of_trimmedLines {dump other : Text}
    (same : dump.trimmedLines = other.trimmedLines) (list : ListOffset) :
    ranges dump list = ranges other list := by
  have lines := Text.sameInside_of_trimmedLines same
  apply ranges_of_alike
  rw [← rows_filledLines, ← rows_filledLines]
  exact List.rel_filterMap (fun _ _ same => Row.rel_ofLine? same) lines

end LocationList

end LiveRange
