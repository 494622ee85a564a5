import LiveRange.Proofs.LocationList.Window
import LiveRange.Proofs.Numeral
import LiveRange.Proofs.Text.Lines
import LiveRange.Proofs.Text.Marks

/-! What the rows of a printed location dump have in common, and how each part of them is read. -/

namespace LiveRange.LocationList

/-- The marks that tell rows apart. -/
def marks : List String := ["<End of list>", "(base address)", "views at"]

/-- The expression of an entry, shown in parentheses at the end of its row. -/
structure Expression where
  text : Text
  oneLine : '\n' ∉ text
  unmarked : ∀ mark ∈ marks, Text.mentions mark ('(' :: text ++ [')']) = false

def Expression.shown (expression : Expression) : Text := '(' :: expression.text ++ [')']

/-- Two words in columns that follow each other. -/
def columns (first second : Text) : Text := first ++ ' ' :: second

def addresses (width : Nat) (range : AddressRange) : Text :=
  columns (Numeral.padded width range.start) (Numeral.padded width range.stop)

/-- A row with an offset, two columns and a note behind them. -/
def notedRow (offset : UInt64) (first second note : Text) : Row :=
  Row.ofParts 4 (Numeral.padded 8 offset) (columns first second ++ ' ' :: note)

def closingRow (offset : UInt64) : Row :=
  Row.ofParts 4 (Numeral.padded 8 offset) "<End of list>".toList

/-- The title of the section and those of its columns. -/
def heading : List Text :=
  ["Contents of the .debug_loc section:".toList, [],
    "    Offset   Begin    End      Expression".toList]

/-- Numbers and the blanks between them. -/
def Tabular (text : Text) : Prop := ∀ c ∈ text, Numeral.isHexDigit c = true ∨ c = ' '

theorem Tabular.append {left right : Text} (first : Tabular left) (last : Tabular right) :
    Tabular (left ++ right) := by
  intro c member
  rcases List.mem_append.mp member with member | member
  · exact first c member
  · exact last c member

theorem tabular_spaces (count : Nat) : Tabular (List.replicate count ' ') := by
  intro c member
  exact Or.inr (List.eq_of_mem_replicate member)

theorem tabular_padded (width : Nat) (value : UInt64) : Tabular (Numeral.padded width value) :=
  fun _ member => Or.inl (Numeral.isHexDigit_of_mem_padded member)

theorem Tabular.columns {first second : Text} (front : Tabular first) (back : Tabular second) :
    Tabular (columns first second) := by
  rw [LocationList.columns, ← List.singleton_append]
  exact front.append ((tabular_spaces 1).append back)

theorem Tabular.notMem {text : Text} (tabular : Tabular text) {c : Char}
    (other : Numeral.isHexDigit c = false) (solid : c ≠ ' ') : c ∉ text := by
  intro member
  rcases tabular c member with digit | blank
  · rw [digit] at other
    cases other
  · exact solid blank

theorem Tabular.oneLine {text : Text} (tabular : Tabular text) : '\n' ∉ text :=
  tabular.notMem (by decide) (by decide)

theorem spelled_of_mem_marks {mark : String} (known : mark ∈ marks) :
    ∃ first others, mark.toList = first :: others ∧
      Numeral.isHexDigit first = false ∧ first ≠ ' ' := by
  simp only [marks, List.mem_cons, List.not_mem_nil, or_false] at known
  rcases known with rfl | rfl | rfl
  · exact ⟨'<', _, rfl, by decide, by decide⟩
  · exact ⟨'(', _, rfl, by decide, by decide⟩
  · exact ⟨'v', _, rfl, by decide, by decide⟩

/-- No mark starts within numbers. -/
theorem Tabular.mentions_cons {front : Text} (tabular : Tabular front) {mark : String}
    (known : mark ∈ marks) (rest : Text) :
    Text.mentions mark (front ++ ' ' :: rest) = Text.mentions mark rest := by
  obtain ⟨first, others, spelled, other, solid⟩ := spelled_of_mem_marks known
  have absent := (tabular.append (tabular_spaces 1)).notMem other solid
  have whole : front ++ ' ' :: rest = (front ++ List.replicate 1 ' ') ++ rest := by simp
  rw [whole, Text.mentions_append_of_notMem spelled absent]

/-- A row mentions a mark where what follows its number does. -/
theorem mentions_ofParts {mark : String} (known : mark ∈ marks) (indent width : Nat)
    (value : UInt64) (rest : Text) :
    Text.mentions mark (Row.ofParts indent (Numeral.padded width value) rest).line =
      Text.mentions mark rest :=
  ((tabular_spaces indent).append (tabular_padded width value)).mentions_cons known rest

namespace Expression

theorem isTrimmed (expression : Expression) : expression.shown.IsTrimmed where
  nonempty := by simp [shown]
  front := by
    intro c first
    rw [shown, List.cons_append, List.head?_cons, Option.mem_some_iff] at first
    exact first ▸ rfl
  back := by
    intro c last
    rw [shown, List.getLast?_append, List.getLast?_singleton, Option.some_or,
      Option.mem_some_iff] at last
    exact last ▸ rfl

theorem newline_notMem_shown (expression : Expression) : '\n' ∉ expression.shown := by
  have inside := expression.oneLine
  simp [shown, inside]

end Expression

theorem isTrimmed_cons {front note : Text} (first : front.IsTrimmed) (last : note.IsTrimmed) :
    (front ++ ' ' :: note).IsTrimmed := by
  have parts := first.append last [' ']
  rwa [List.append_assoc, List.singleton_append] at parts

theorem isLine_ofParts {first rest : Text} (solid : first.IsWord) (trimmed : rest.IsTrimmed)
    (single : '\n' ∉ rest) (indent : Nat) : (Row.ofParts indent first rest).line.IsLine := by
  have inFirst : '\n' ∉ first := fun member => by cases solid.2 '\n' member
  have before : '\n' ∉ List.replicate indent ' ' ++ first ++ [' '] := by
    simp [inFirst]
  have parts := (trimmed.isLine single).append trimmed.nonempty before
  rwa [List.append_assoc, List.singleton_append] at parts

section Columns

variable {first second : Text} (front : first.IsWord) (back : second.IsWord)

include front back

theorem words_columns (rest : Text) :
    (columns first second ++ ' ' :: rest).words = first :: second :: rest.words := by
  rw [columns, List.append_assoc, List.cons_append, front.words_cons rfl, back.words_cons rfl]

theorem leading?_columns {range : AddressRange}
    (start : Numeral.parse? .hexadecimal first = some range.start)
    (stop : Numeral.parse? .hexadecimal second = some range.stop) (rest : Text) :
    AddressRange.leading? (columns first second ++ ' ' :: rest) = some range := by
  rw [AddressRange.leading?, words_columns front back]
  simp only [start, stop]
  rfl

theorem isTrimmed_notedRow {note : Text} (trimmed : note.IsTrimmed) (offset : UInt64) :
    (notedRow offset first second note).rest.IsTrimmed :=
  isTrimmed_cons (isTrimmed_cons front.isTrimmed back.isTrimmed) trimmed

theorem ofLine?_notedRow {note : Text} (trimmed : note.IsTrimmed) (offset : UInt64) :
    Row.ofLine? (notedRow offset first second note).line =
      some (notedRow offset first second note) :=
  Row.ofLine?_ofParts (Numeral.isWord_padded 8 offset)
    (isTrimmed_notedRow front back trimmed offset) 4

theorem isLine_notedRow {note : Text} (trimmed : note.IsTrimmed) (single : '\n' ∉ note)
    (offset : UInt64) : (notedRow offset first second note).line.IsLine := by
  have inFirst : '\n' ∉ first := fun member => by cases front.2 '\n' member
  have inSecond : '\n' ∉ second := fun member => by cases back.2 '\n' member
  have noBreak : '\n' ∉ columns first second ++ ' ' :: note := by
    simp [columns, inFirst, inSecond, single]
  exact isLine_ofParts (Numeral.isWord_padded 8 offset)
    (isTrimmed_notedRow front back trimmed offset) noBreak 4

/-- Three words and more stand in the row, so its own offset is never taken for an address. -/
theorem range?_notedRow {note : Text} {offset : UInt64}
    (unmarked : (notedRow offset first second note).rest.mentions "(base address)" = false) :
    (notedRow offset first second note).range? false =
      AddressRange.leading? (notedRow offset first second note).rest := by
  have words : (notedRow offset first second note).line.words =
      Numeral.padded 8 offset :: first :: second :: note.words := by
    rw [notedRow, Row.words_ofParts (Numeral.isWord_padded 8 offset), words_columns front back]
  have long : ((notedRow offset first second note).line.words.length == 2) = false := by
    rw [words]
    rfl
  rw [Row.range?, unmarked, long]
  rfl

end Columns

theorem leading?_addresses (width : Nat) (range : AddressRange) (rest : Text) :
    AddressRange.leading? (addresses width range ++ ' ' :: rest) = some range :=
  leading?_columns (Numeral.isWord_padded width range.start)
    (Numeral.isWord_padded width range.stop) (Numeral.parse?_padded width range.start)
    (Numeral.parse?_padded width range.stop) rest

theorem opens_notedRow {offset : UInt64} {first second note : Text}
    (unclosed : (notedRow offset first second note).closes = false) (list : ListOffset) :
    (notedRow offset first second note).opens list = (offset == list.value) := by
  have number : Numeral.parse? .hexadecimal (notedRow offset first second note).first =
      some offset := Numeral.parse?_padded 8 offset
  rw [Row.opens, unclosed, number]
  rfl

theorem ofLine?_closingRow (offset : UInt64) :
    Row.ofLine? (closingRow offset).line = some (closingRow offset) :=
  Row.ofLine?_ofParts (Numeral.isWord_padded 8 offset) (by decide) 4

theorem isLine_closingRow (offset : UInt64) : (closingRow offset).line.IsLine :=
  isLine_ofParts (Numeral.isWord_padded 8 offset) (by decide) (by decide) 4

theorem closes_closingRow (offset : UInt64) : (closingRow offset).closes = true :=
  (mentions_ofParts (by decide) 4 8 offset "<End of list>".toList).trans (by decide)

theorem isLine_heading : ∀ line ∈ heading, line.IsLine := by decide

theorem rows_printed {lines : List Text} (whole : ∀ line ∈ lines, line.IsLine) :
    rows (Text.unlines (heading ++ lines)) =
      heading.filterMap Row.ofLine? ++ lines.filterMap Row.ofLine? := by
  have titled : ∀ line ∈ heading ++ lines, line.IsLine := by
    intro line member
    rcases List.mem_append.mp member with title | shown
    · exact isLine_heading line title
    · exact whole line shown
  rw [rows, Text.lines_unlines_of_isLine titled, List.filterMap_append]

theorem filterMap_ofLine?_map {shown : List Row}
    (readable : ∀ row ∈ shown, Row.ofLine? row.line = some row) :
    (shown.map Row.line).filterMap Row.ofLine? = shown := by
  have same : ∀ row ∈ shown, (Row.ofLine? ∘ Row.line) row = some row := readable
  rw [List.filterMap_map, List.filterMap_congr same, List.filterMap_some]

theorem unopened_heading (list : ListOffset) :
    ∀ row ∈ heading.filterMap Row.ofLine?, row.opens list = false := by
  have wordless : ∀ row ∈ heading.filterMap Row.ofLine?,
      Numeral.parse? .hexadecimal row.first = none := by decide
  intro row member
  rw [Row.opens, wordless row member]
  exact Bool.and_false _

end LiveRange.LocationList
