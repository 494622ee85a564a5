import LiveRange.Proofs.SourceTable.Respelled
import LiveRange.Proofs.Text.Relaid

/-! The table of a dump of line programs does not depend on the layout of the dump. -/

namespace LiveRange

section Line

variable {line other : Text} (same : line.SameInside other)

include same

theorem Marker.ofLine?_of_sameInside : ofLine? line = ofLine? other := by
  have token : unitToken? line = unitToken? other := by
    apply Option.ext
    intro token
    rw [unitToken?_eq_some_iff, unitToken?_eq_some_iff, same.words_eq]
  have titled : ∀ mark ∈ titles,
      line.trimStart.startsWith mark = other.trimStart.startsWith mark := by
    have solid : ∀ mark ∈ titles, Text.IsTrimmed mark.toList := by decide
    intro mark title
    exact same.startsWith_eq (solid mark title)
  simp only [titles, List.forall_mem_cons] at titled
  rw [ofLine?, ofLine?, token, titled.1, titled.2.1, titled.2.2.1, titled.2.2.2.1]

variable (scan : LineScan)

theorem LineScan.directoryRow_of_sameInside : scan.directoryRow line = scan.directoryRow other := by
  rw [directoryRow, directoryRow, same.fields_eq]

theorem LineScan.fileRow_of_sameInside : scan.fileRow line = scan.fileRow other := by
  have titled : line.trimStart.startsWith "Entry" = other.trimStart.startsWith "Entry" :=
    same.startsWith_eq (by decide)
  rw [fileRow, fileRow, titled, Columns.ofHeader?, Columns.ofHeader?, same.words_eq,
    Columns.fileRow?, Columns.fileRow?, same.fields_eq]

theorem LineScan.step_of_sameInside : scan.step line = scan.step other := by
  rw [step, step, Marker.ofLine?_of_sameInside same, directoryRow_of_sameInside same,
    fileRow_of_sameInside same]

end Line

namespace LineScan

theorem step_of_trim_eq_nil (scan : LineScan) {line : Text} (blank : line.trim = []) :
    scan.step line = scan := by
  have same : line.SameInside [] := blank
  rw [step_of_sameInside same, step_nil]

theorem foldl_filledLines (scan : LineScan) (dump : Text) :
    dump.filledLines.foldl step scan = dump.lines.foldl step scan := by
  rw [Text.filledLines, List.foldl_filter]
  congr 1
  funext scan line
  by_cases blank : line.trim = []
  · simp [blank, step_of_trim_eq_nil]
  · simp [blank]

theorem foldl_of_sameInside (scan : LineScan) {lines others : List Text}
    (same : List.Forall₂ Text.SameInside lines others) :
    lines.foldl step scan = others.foldl step scan := by
  induction same generalizing scan with
  | nil => rfl
  | cons first _ ih => rw [List.foldl_cons, List.foldl_cons, step_of_sameInside first, ih]

end LineScan

theorem SourceTable.ofLineDump_of_trimmedLines {dump other : Text}
    (same : dump.trimmedLines = other.trimmedLines) : ofLineDump dump = ofLineDump other := by
  have lines := Text.sameInside_of_trimmedLines same
  rw [ofLineDump, ofLineDump, ← LineScan.foldl_filledLines, ← LineScan.foldl_filledLines,
    LineScan.foldl_of_sameInside _ lines]

end LiveRange
