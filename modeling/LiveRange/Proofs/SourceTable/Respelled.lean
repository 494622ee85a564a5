import LiveRange.Proofs.Numeral.Spelling
import LiveRange.Proofs.SourceTable.Scan
import LiveRange.Proofs.Text.Standing

/-! The table of a dump of line programs does not depend on how its numbers are spelled. -/

namespace LiveRange

section Row

variable {front back token other : Text} (apart : Text.Apart front back)

include apart

theorem startsWith_trimStart_of_spells {mark : String}
    (foreign : Text.Foreign Numeral.Radix.decimal.admits mark) {value : UInt64}
    (spells : Numeral.Spells .decimal token value) :
    (Text.trimStart (front ++ (token ++ back))).startsWith mark =
      front.trimStart.startsWith mark := by
  rw [Text.trimStart_append_word spells.isWord]
  exact foreign.startsWith_append spells.isWord spells.admits
    (apart.of_suffix (List.dropWhile_suffix isBlank))

/-- Another spelling makes no marker of a row that is none. -/
theorem Marker.ofLine?_of_respells (plain : ofLine? (front ++ (token ++ back)) = none)
    (respells : Numeral.Respells .decimal token other) :
    ofLine? (front ++ (other ++ back)) = none := by
  obtain ⟨value, spells, spellsOther⟩ := respells
  obtain ⟨headless, untitled⟩ := ofLine?_eq_none_iff.mp plain
  have foreign : ∀ mark ∈ titles, Text.Foreign Numeral.Radix.decimal.admits mark := by decide
  refine ofLine?_eq_none_iff.mpr ⟨?_, ?_⟩
  · by_contra headed
    obtain ⟨name, found⟩ := Option.ne_none_iff_exists'.mp headed
    obtain ⟨others, words⟩ := unitToken?_eq_some_iff.mp found
    rw [apart.words_word spellsOther.isWord] at words
    cases before : front.words with
    | nil =>
        rw [before, List.nil_append, List.cons.injEq] at words
        have admitted := spellsOther.admits 's' (words.1 ▸ by decide)
        cases admitted
    | cons first ws =>
        rw [before, List.cons_append, List.cons.injEq] at words
        have filled : ws ++ token :: back.words ≠ [] := by simp
        obtain ⟨second, later, behind⟩ := List.exists_cons_of_ne_nil filled
        have header : unitToken? (front ++ (token ++ back)) = some second := by
          refine unitToken?_eq_some_iff.mpr ⟨later, ?_⟩
          rw [apart.words_word spells.isWord, before, List.cons_append, behind, words.1]
        rw [header] at headless
        cases headless
  · intro mark title
    have same := untitled mark title
    rw [startsWith_trimStart_of_spells apart (foreign mark title) spells] at same
    rw [startsWith_trimStart_of_spells apart (foreign mark title) spellsOther, same]

theorem LineScan.directoryRow_of_respells (scan : LineScan) (first : front.words = [])
    (respells : Numeral.Respells .decimal token other) :
    scan.directoryRow (front ++ (token ++ back)) =
      scan.directoryRow (front ++ (other ++ back)) := by
  have fields {word : Text} (solid : word.IsWord) :
      Text.fields 2 (front ++ (word ++ back)) = word :: back.fields 1 := by
    have split := apart.fields_append solid 0
    rwa [first] at split
  have read := respells.parse?_eq
  obtain ⟨value, spells, spellsOther⟩ := respells
  rw [directoryRow, directoryRow, fields spells.isWord, fields spellsOther.isWord]
  rcases back.fields 1 with _ | ⟨name, _ | ⟨another, others⟩⟩
  · rfl
  · simp only [read]
  · rfl

/-- The name is the last field, so a number in front of it is a field of its own. -/
theorem Columns.fileRow?_of_respells {columns : Columns}
    (before : front.words.length < columns.name)
    (respells : Numeral.Respells .decimal token other) :
    columns.fileRow? (front ++ (token ++ back)) = columns.fileRow? (front ++ (other ++ back)) := by
  have number := respells.number_at front.words
  obtain ⟨value, spells, spellsOther⟩ := respells
  obtain ⟨limit, split⟩ : ∃ limit, columns.name + 1 = front.words.length + (limit + 2) :=
    ⟨columns.name - 1 - front.words.length, by omega⟩
  have fields {word : Text} (solid : word.IsWord) :
      Text.fields (columns.name + 1) (front ++ (word ++ back)) =
        front.words ++ word :: back.fields (limit + 1) := by
    rw [split, apart.fields_append solid]
  have name : (front.words ++ token :: back.fields (limit + 1))[columns.name]? =
      (front.words ++ other :: back.fields (limit + 1))[columns.name]? :=
    Numeral.getElem?_append_cons_of_ne (by omega)
  rw [fileRow?, fileRow?, fields spells.isWord, fields spellsOther.isWord]
  simp only [bind, ← Option.bind_assoc, number, name]

end Row

namespace LineScan

/-- Where the reader of a dump of line programs takes a word for a number, told by its row and the
part in front of it. -/
inductive ReadsNumber (scan : LineScan) (row front : Text) : Prop
  | header (mark : front.words = ["Offset:".toList])
  | directory (reads : scan.Reads .directories row) (first : front.words = [])
  | index (reads : scan.Reads .files row) (first : front.words = [])
  | directoryColumn (reads : scan.Reads .files row)
      (untitled : row.trimStart.startsWith "Entry" = false)
      (column : front.words.length = scan.columns.dir)

section Step

variable {scan : LineScan} {front back token other : Text} (apart : Text.Apart front back)

include apart

theorem fileRow_of_respells (before : front.words.length < scan.columns.name)
    (untitled : (Text.trimStart (front ++ (token ++ back))).startsWith "Entry" = false)
    (respells : Numeral.Respells .decimal token other) :
    scan.fileRow (front ++ (token ++ back)) = scan.fileRow (front ++ (other ++ back)) := by
  have row := Columns.fileRow?_of_respells apart before respells
  obtain ⟨value, spells, spellsOther⟩ := respells
  have foreign : Text.Foreign Numeral.Radix.decimal.admits "Entry" := by decide
  rw [startsWith_trimStart_of_spells apart foreign spells] at untitled
  rw [fileRow, fileRow, startsWith_trimStart_of_spells apart foreign spells,
    startsWith_trimStart_of_spells apart foreign spellsOther, untitled, row]
  rfl

theorem step_of_respells (ordered : scan.columns.Ordered)
    (reads : scan.ReadsNumber (front ++ (token ++ back)) front)
    (respells : Numeral.Respells .decimal token other) :
    scan.step (front ++ (token ++ back)) = scan.step (front ++ (other ++ back)) := by
  have untitledFirst (first : front.words = []) :
      (Text.trimStart (front ++ (token ++ back))).startsWith "Entry" = false := by
    obtain ⟨value, spells, _⟩ := respells
    rw [startsWith_trimStart_of_spells apart (by decide) spells,
      Text.trimStart_eq_nil_iff.mpr (Text.words_eq_nil_iff.mp first)]
    rfl
  cases reads with
  | header mark =>
      have name := UnitName.parse_of_respells respells
      obtain ⟨value, spells, spellsOther⟩ := respells
      have header {word : Text} (solid : word.IsWord) :
          Marker.ofLine? (front ++ (word ++ back)) = some (.unit word) := by
        refine Marker.ofLine?_eq_unit_iff.mpr (Marker.unitToken?_eq_some_iff.mpr ⟨back.words, ?_⟩)
        rw [apart.words_word solid, mark]
        rfl
      rw [step_of_header scan (header spells.isWord),
        step_of_header scan (header spellsOther.isWord), name]
  | directory reads first =>
      have plain := Marker.ofLine?_of_respells apart reads.1 respells
      rw [step_directories scan reads.1 reads.2, step_directories scan plain reads.2]
      exact directoryRow_of_respells apart scan first respells
  | index reads first =>
      have plain := Marker.ofLine?_of_respells apart reads.1 respells
      rw [step_files scan reads.1 reads.2, step_files scan plain reads.2]
      apply fileRow_of_respells apart _ (untitledFirst first) respells
      rw [first]
      exact Nat.zero_lt_of_lt ordered.named
  | directoryColumn reads untitled column =>
      have plain := Marker.ofLine?_of_respells apart reads.1 respells
      rw [step_files scan reads.1 reads.2, step_files scan plain reads.2]
      exact fileRow_of_respells apart (column ▸ ordered.named) untitled respells

end Step

end LineScan

namespace SourceTable

/-- Where a dump of line programs has a number. -/
def NumberAt (before : List Text) (front token back : Text) : Prop :=
  Text.Apart front back ∧
    (before.foldl LineScan.step {}).ReadsNumber (front ++ (token ++ back)) front

theorem ofLineDump_of_respelled {dump other : Text}
    (respelled : Numeral.RespelledAt .decimal NumberAt dump other) :
    ofLineDump dump = ofLineDump other := by
  obtain ⟨rows, otherRows, ⟨apart, reads⟩, respells⟩ := respelled
  rw [ofLineDump, ofLineDump, rows, otherRows, List.foldl_append, List.foldl_append,
    List.foldl_cons, List.foldl_cons,
    LineScan.step_of_respells apart
      (LineScan.columns_ordered_foldl {} Columns.ordered_default _) reads respells]

end SourceTable

end LiveRange
