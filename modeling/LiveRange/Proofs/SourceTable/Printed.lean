import LiveRange.Proofs.Numeral
import LiveRange.Proofs.SourceTable.Names
import LiveRange.Proofs.Text.Lines

/-! How the directories and files of a line-number program are printed, and how each row is read. -/

namespace LiveRange

/-- The name of a directory or a file, and the note in front of it if there is one. -/
structure PrintedName where
  text : Text
  note : Option (Bool × UInt64) := none
  trimmed : Text.IsTrimmed text
  oneLine : '\n' ∉ text
  plain : note = none → ∀ inLines digits rest, digits ≠ [] →
    (∀ c ∈ digits, Numeral.isHexDigit c = true) → text ≠ noted inLines digits rest

/-- A name that starts with no parenthesis cannot be taken for one with a note. -/
def PrintedName.bare (text : Text) (trimmed : Text.IsTrimmed text) (oneLine : '\n' ∉ text)
    (front : text.head? ≠ some '(') : PrintedName where
  text := text
  trimmed := trimmed
  oneLine := oneLine
  plain := by
    rintro _ inLines digits rest _ _ rfl
    exact front rfl

def PrintedName.printed (name : PrintedName) : Text :=
  match name.note with
  | none => name.text
  | some (inLines, offset) => noted inLines (Numeral.hexadecimal offset) (' ' :: name.text)

/-- Fields with a tab behind each, and the last field. -/
def tabbed : List Text → Text → Text
  | [], last => last
  | field :: fields, last => field ++ '\t' :: tabbed fields last

def tableRow (fields : List Text) (last : Text) : Text := List.replicate 2 ' ' ++ tabbed fields last

/-- The columns between the directory of a file and its name. Directories have titles of their own
in newer layouts. -/
structure Layout where
  newer : Bool
  titles : List Text
  solid : ∀ title ∈ titles, Text.IsWord title
  others : "Dir".toList ∉ titles ∧ "Name".toList ∉ titles

def Layout.older : Layout where
  newer := false
  titles := ["Time".toList, "Size".toList]
  solid := by decide
  others := by decide

structure PrintedDirectory where
  index : UInt64
  name : PrintedName

structure PrintedFile where
  index : UInt64
  directory : UInt64
  columns : List Text
  name : PrintedName
  solid : ∀ field ∈ columns, Text.IsWord field

def PrintedFile.row (file : PrintedFile) : Text :=
  tableRow (Numeral.decimal file.index :: Numeral.decimal file.directory :: file.columns)
    file.name.printed

def PrintedDirectory.row (directory : PrintedDirectory) : Text :=
  tableRow [Numeral.decimal directory.index] directory.name.printed

namespace Layout

def header (layout : Layout) : Text :=
  tableRow ("Entry".toList :: "Dir".toList :: layout.titles) "Name".toList

def columns (layout : Layout) : Columns where
  dir := 1
  name := layout.titles.length + 2

end Layout

/-- Lines that open or close something start with one of these. -/
def markers : List String :=
  ["Offset:", "The Directory Table", "The File Name Table", "Line Number Statements",
    "No Line Number Statements"]

def Inert (line : Text) : Prop := ∀ mark ∈ markers, Text.startsWith mark line.trimStart = false

/-- The note stands in one piece before the name. -/
theorem noted_eq_append (inLines : Bool) {digits : Text} (oneLine : '\n' ∉ digits) :
    ∃ front, '\n' ∉ front ∧ ∀ name, noted inLines digits name = '(' :: (front ++ name) := by
  have marks : '\n' ∉ "indirect ".toList ∧ '\n' ∉ "line ".toList ∧
      '\n' ∉ "string, offset: 0x".toList ∧ '\n' ∉ "):".toList := by decide
  obtain ⟨opening, lines, stored, closing⟩ := marks
  cases inLines with
  | true =>
      refine ⟨"indirect ".toList ++ ("line ".toList ++
        ("string, offset: 0x".toList ++ (digits ++ "):".toList))), ?_, ?_⟩
      · simp only [List.mem_append, opening, lines, stored, oneLine, closing, or_self,
          not_false_eq_true]
      · intro name
        simp [noted, Text.marked]
  | false =>
      refine ⟨"indirect ".toList ++
        ("string, offset: 0x".toList ++ (digits ++ "):".toList)), ?_, ?_⟩
      · simp only [List.mem_append, opening, stored, oneLine, closing, or_self, not_false_eq_true]
      · intro name
        simp [noted, Text.marked]

namespace PrintedName

variable (name : PrintedName)

theorem isTrimmed_printed : Text.IsTrimmed name.printed := by
  rw [printed]
  split
  · exact name.trimmed
  · next inLines offset _ =>
      obtain ⟨front, _, whole⟩ :=
        noted_eq_append inLines (Numeral.notMem_hexadecimal (by decide) offset)
      have opening : Text.IsTrimmed ['('] := by decide
      have parts := opening.append name.trimmed (front ++ [' '])
      rw [whole]
      simpa using parts

theorem oneLine_printed : '\n' ∉ name.printed := by
  rw [printed]
  split
  · exact name.oneLine
  · next inLines offset _ =>
      obtain ⟨front, single, whole⟩ :=
        noted_eq_append inLines (Numeral.notMem_hexadecimal (by decide) offset)
      rw [whole]
      simp [single, name.oneLine]

theorem plainName_printed : plainName name.printed = name.text := by
  rw [plainName, Text.trimEnd_of_back name.isTrimmed_printed.back]
  cases noteless : name.note with
  | none =>
      have shown : name.printed = name.text := by
        rw [printed, noteless]
      have unnoted : plainName.afterNote? name.text = none := by
        cases found : plainName.afterNote? name.text with
        | none => rfl
        | some rest =>
            obtain ⟨inLines, digits, rest, nonempty, inside, split⟩ := eq_noted_of_afterNote? found
            exact absurd split (name.plain noteless inLines digits rest nonempty inside)
      rw [shown, unnoted]
      rfl
  | some note =>
      obtain ⟨inLines, offset⟩ := note
      have shown : name.printed =
          noted inLines (Numeral.hexadecimal offset) (' ' :: name.text) := by
        rw [printed, noteless]
      have nonempty : Numeral.hexadecimal offset ≠ [] := Nat.toDigits_ne_nil
      have behind := afterNote?_noted inLines nonempty
        (fun c member => Numeral.isHexDigit_of_mem_hexadecimal member) (' ' :: name.text)
      rw [shown, behind, Option.getD_some, Text.trimStart_cons_blank rfl,
        Text.trimStart_of_front name.trimmed.front]

end PrintedName

section Rows

variable {fields : List Text} {last : Text} (solid : ∀ field ∈ fields, Text.IsWord field)

include solid

theorem fields_tabbed (trimmed : Text.IsTrimmed last) :
    (tabbed fields last).fields (fields.length + 1) = fields ++ [last] := by
  induction fields with
  | nil => exact trimmed.fields_one
  | cons field fields ih =>
      have here := solid field List.mem_cons_self
      have later := ih fun other member => solid other (List.mem_cons_of_mem field member)
      rw [tabbed, List.length_cons, here.fields_cons _ rfl, later, List.cons_append]

theorem words_tabbed (word : Text.IsWord last) : (tabbed fields last).words = fields ++ [last] := by
  induction fields with
  | nil => exact word.words
  | cons field fields ih =>
      have here := solid field List.mem_cons_self
      have later := ih fun other member => solid other (List.mem_cons_of_mem field member)
      rw [tabbed, here.words_cons rfl, later, List.cons_append]

theorem isTrimmed_tabbed (trimmed : Text.IsTrimmed last) (single : '\n' ∉ last) :
    '\n' ∉ tabbed fields last ∧ Text.IsTrimmed (tabbed fields last) := by
  induction fields with
  | nil => exact ⟨single, trimmed⟩
  | cons field fields ih =>
      have here := solid field List.mem_cons_self
      have later := ih fun other member => solid other (List.mem_cons_of_mem field member)
      have inside : '\n' ∉ field := fun member => by cases here.2 '\n' member
      have parts := here.isTrimmed.append later.2 ['\t']
      rw [List.append_assoc, List.singleton_append] at parts
      exact ⟨by simp [tabbed, inside, later.1], parts⟩

theorem fields_tableRow (trimmed : Text.IsTrimmed last) :
    (tableRow fields last).fields (fields.length + 1) = fields ++ [last] := by
  rw [tableRow, Text.fields_append_blank _ (Text.blank_replicate 2), fields_tabbed solid trimmed]

theorem isLine_tableRow (trimmed : Text.IsTrimmed last) (single : '\n' ∉ last) :
    Text.IsLine (tableRow fields last) := by
  obtain ⟨inside, whole⟩ := isTrimmed_tabbed solid trimmed single
  exact (whole.isLine inside).append whole.nonempty (by decide)

theorem trimStart_tableRow (trimmed : Text.IsTrimmed last) (single : '\n' ∉ last) :
    (tableRow fields last).trimStart = tabbed fields last := by
  rw [tableRow, Text.trimStart_append_blank (Text.blank_replicate 2)]
  exact Text.trimStart_of_front (isTrimmed_tabbed solid trimmed single).2.front

end Rows

/-- Where a line starts with no letter that a marker starts with, it is none. -/
theorem inert_of_head {line rest : Text} {c : Char} (front : line.trimStart = c :: rest)
    (other : c ∉ ['O', 'T', 'L', 'N']) : Inert line := by
  have heads : ∀ mark ∈ markers, ∃ first others, mark.toList = first :: others ∧
      first ∈ ['O', 'T', 'L', 'N'] := by
    intro mark known
    simp only [markers, List.mem_cons, List.not_mem_nil, or_false] at known
    rcases known with rfl | rfl | rfl | rfl | rfl
    · exact ⟨'O', _, rfl, by decide⟩
    · exact ⟨'T', _, rfl, by decide⟩
    · exact ⟨'T', _, rfl, by decide⟩
    · exact ⟨'L', _, rfl, by decide⟩
    · exact ⟨'N', _, rfl, by decide⟩
  intro mark known
  obtain ⟨first, others, spelled, listed⟩ := heads mark known
  have differ : c ≠ first := by
    rintro rfl
    exact other listed
  rw [front]
  exact Text.startsWith_cons_of_ne spelled differ rest

theorem marker_of_inert {line : Text} (inert : Inert line) : Marker.ofLine? line = none := by
  have program : Marker.unitToken? line = none := by
    cases found : Text.after? "Offset:" line.trimStart with
    | none =>
        rw [Marker.unitToken?, found]
        rfl
    | some rest =>
        have opening := inert "Offset:" (by decide)
        rw [Text.eq_marked_of_after? found, Text.startsWith_marked] at opening
        cases opening
  rw [Marker.ofLine?, program]
  simp only [inert _ (by decide : "The Directory Table" ∈ markers),
    inert _ (by decide : "The File Name Table" ∈ markers),
    inert _ (by decide : "Line Number Statements" ∈ markers),
    inert _ (by decide : "No Line Number Statements" ∈ markers), Bool.false_eq_true, if_false]

theorem isWord_titles : Text.IsWord "Entry".toList ∧ Text.IsWord "Dir".toList ∧
    Text.IsWord "Name".toList :=
  ⟨by decide, by decide, by decide⟩

namespace Layout

variable (layout : Layout)

theorem isWord_header : ∀ title ∈ "Entry".toList :: "Dir".toList :: layout.titles,
    Text.IsWord title := by
  obtain ⟨entry, dir, _⟩ := isWord_titles
  intro title member
  rcases List.mem_cons.mp member with rfl | member
  · exact entry
  · rcases List.mem_cons.mp member with rfl | member
    · exact dir
    · exact layout.solid title member

theorem isLine_header : Text.IsLine layout.header :=
  isLine_tableRow layout.isWord_header isWord_titles.2.2.isTrimmed (by decide)

theorem trimStart_header : layout.header.trimStart =
    tabbed ("Entry".toList :: "Dir".toList :: layout.titles) "Name".toList :=
  trimStart_tableRow layout.isWord_header isWord_titles.2.2.isTrimmed (by decide)

/-- The titles tell the columns of the rows below them. -/
theorem ofHeader?_header : Columns.ofHeader? layout.header = some layout.columns := by
  have words : layout.header.words =
      "Entry".toList :: "Dir".toList :: (layout.titles ++ ["Name".toList]) := by
    rw [header, tableRow, Text.words_append_blank (Text.blank_replicate 2),
      words_tabbed layout.isWord_header isWord_titles.2.2]
    rfl
  have dir : layout.header.words.idxOf? "Dir".toList = some 1 := by
    rw [words, List.idxOf?_cons, List.idxOf?_cons]
    rfl
  have name : layout.header.words.idxOf? "Name".toList = some (layout.titles.length + 2) := by
    have behind : (layout.titles ++ ["Name".toList]).idxOf? "Name".toList =
        some layout.titles.length := by
      have absent := List.idxOf?_eq_none_iff.mpr layout.others.2
      rw [List.idxOf?] at absent
      rw [List.idxOf?, List.findIdx?_append, absent]
      simp
    rw [words, List.idxOf?_cons, List.idxOf?_cons, behind]
    rfl
  rw [Columns.ofHeader?]
  simp only [dir, name, Option.bind_eq_bind, Option.bind_some]
  exact if_pos (by omega)

end Layout

/-- A row starts with a digit, so it opens nothing and is no header. -/
theorem front_of_index {fields : List Text} {last : Text} {index : UInt64}
    (solid : ∀ field ∈ Numeral.decimal index :: fields, Text.IsWord field)
    (trimmed : Text.IsTrimmed last) (single : '\n' ∉ last) :
    ∃ c rest, (tableRow (Numeral.decimal index :: fields) last).trimStart = c :: rest ∧
      c.isDigit = true := by
  have nonempty : Numeral.decimal index ≠ [] := (Numeral.isWord_decimal index).1
  obtain ⟨c, digits, spelled⟩ := List.exists_cons_of_ne_nil nonempty
  have digit : c.isDigit = true := Numeral.isDigit_of_mem_decimal (spelled ▸ List.mem_cons_self)
  refine ⟨c, digits ++ '\t' :: tabbed fields last, ?_, digit⟩
  rw [trimStart_tableRow solid trimmed single, tabbed, spelled, List.cons_append]

theorem inert_of_digit {line rest : Text} {c : Char} (front : line.trimStart = c :: rest)
    (digit : c.isDigit = true) : Inert line := by
  have letters : ∀ letter ∈ ['O', 'T', 'L', 'N'], letter.isDigit = false := by decide
  apply inert_of_head front
  intro member
  rw [letters c member] at digit
  cases digit

namespace PrintedDirectory

variable (directory : PrintedDirectory)

theorem isWord_fields : ∀ field ∈ [Numeral.decimal directory.index], Text.IsWord field := by
  intro field member
  rw [List.mem_singleton.mp member]
  exact Numeral.isWord_decimal directory.index

theorem fields_row : directory.row.fields 2 =
    [Numeral.decimal directory.index, directory.name.printed] :=
  fields_tableRow directory.isWord_fields directory.name.isTrimmed_printed

theorem inert_row : Inert directory.row := by
  obtain ⟨c, rest, front, digit⟩ := front_of_index directory.isWord_fields
    directory.name.isTrimmed_printed directory.name.oneLine_printed
  exact inert_of_digit front digit

theorem isLine_row : Text.IsLine directory.row :=
  isLine_tableRow directory.isWord_fields directory.name.isTrimmed_printed
    directory.name.oneLine_printed

end PrintedDirectory

namespace PrintedFile

variable (file : PrintedFile)

theorem isWord_fields : ∀ field ∈
    Numeral.decimal file.index :: Numeral.decimal file.directory :: file.columns,
    Text.IsWord field := by
  intro field member
  rcases List.mem_cons.mp member with rfl | member
  · exact Numeral.isWord_decimal file.index
  · rcases List.mem_cons.mp member with rfl | member
    · exact Numeral.isWord_decimal file.directory
    · exact file.solid field member

theorem front_row : ∃ c rest, file.row.trimStart = c :: rest ∧ c.isDigit = true :=
  front_of_index file.isWord_fields file.name.isTrimmed_printed file.name.oneLine_printed

theorem inert_row : Inert file.row := by
  obtain ⟨c, rest, front, digit⟩ := file.front_row
  exact inert_of_digit front digit

theorem untitled_row : Text.startsWith "Entry" file.row.trimStart = false := by
  obtain ⟨c, rest, front, digit⟩ := file.front_row
  have differ : c ≠ 'E' := by
    rintro rfl
    cases digit
  rw [front]
  exact Text.startsWith_cons_of_ne rfl differ rest

theorem isLine_row : Text.IsLine file.row :=
  isLine_tableRow file.isWord_fields file.name.isTrimmed_printed file.name.oneLine_printed

/-- A row is read by the columns of its own layout. -/
theorem fileRow?_row {layout : Layout} (aligned : file.columns.length = layout.titles.length) :
    layout.columns.fileRow? file.row =
      some { index := file.index, directory := file.directory, name := file.name.text } := by
  have read : file.row.fields (layout.titles.length + 2 + 1) =
      Numeral.decimal file.index :: Numeral.decimal file.directory ::
        (file.columns ++ [file.name.printed]) := by
    rw [← aligned]
    exact fields_tableRow file.isWord_fields file.name.isTrimmed_printed
  have last : (file.columns ++ [file.name.printed])[layout.titles.length]? =
      some file.name.printed := by
    rw [← aligned, List.getElem?_concat_length]
  rw [Columns.fileRow?]
  simp only [Layout.columns, read, List.getElem?_cons_zero, List.getElem?_cons_succ, last,
    Numeral.parse?_decimal, Option.bind_eq_bind, Option.bind_some, file.name.plainName_printed]
  rfl

end PrintedFile

end LiveRange
