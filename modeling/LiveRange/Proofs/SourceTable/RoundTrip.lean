import LiveRange.Proofs.SourceTable.Printed
import LiveRange.Proofs.SourceTable.Scan

/-! A table read from printed line-number programs knows the files of each of them. -/

namespace LiveRange

/-- A program with its directories and files, and the other lines of its header and its body. -/
structure LineProgram where
  offset : UInt64
  layout : Layout
  directories : List PrintedDirectory
  files : List PrintedFile
  directoriesNote : Text
  filesNote : Text
  header : List Text
  statements : List Text
  aligned : ∀ file ∈ files, file.columns.length = layout.titles.length
  distinctDirectories : (directories.map PrintedDirectory.index).Nodup
  distinctFiles : (files.map PrintedFile.index).Nodup
  oneLine : '\n' ∉ directoriesNote ∧ '\n' ∉ filesNote
  inert : ∀ line ∈ header ++ statements, Inert line
  whole : ∀ line ∈ header ++ statements, Text.IsLine line

/-- The title of a table, which is left without rows where it is empty. -/
def tableTitle (mark : String) (empty : Bool) (note : Text) : Text :=
  ' ' :: Text.marked mark (if empty then " is empty.".toList else ' ' :: (note ++ [':']))

namespace LineProgram

def offsetLine (offset : UInt64) : Text :=
  List.replicate 2 ' ' ++
    Text.marked "Offset:" (List.replicate 22 ' ' ++ Numeral.markedHexadecimal offset)

variable (program : LineProgram)

def directoryLines : List Text :=
  if program.layout.newer && !program.directories.isEmpty then
    tableRow ["Entry".toList] "Name".toList :: program.directories.map PrintedDirectory.row
  else program.directories.map PrintedDirectory.row

def fileLines : List Text :=
  if program.files.isEmpty then [] else program.layout.header :: program.files.map PrintedFile.row

def statementsTitle : Text :=
  ' ' :: if program.statements.isEmpty then Text.marked "No Line Number Statements" ['!']
    else Text.marked "Line Number Statements" [':']

def directoryTable : List Text :=
  tableTitle "The Directory Table" program.directories.isEmpty program.directoriesNote ::
    (program.directoryLines ++ [[]])

def fileTable : List Text :=
  tableTitle "The File Name Table" program.files.isEmpty program.filesNote ::
    (program.fileLines ++ [[]])

def lines : List Text :=
  offsetLine program.offset :: (program.header ++ (program.directoryTable ++
    (program.fileTable ++ program.statementsTitle :: program.statements)))

def directoryNames : List (UInt64 × Text) :=
  program.directories.map fun directory => (directory.index, directory.name.text)

/-- The files whose directory is listed. -/
def paths : List (UInt64 × Path) :=
  program.files.filterMap fun file =>
    (program.directoryNames.lookup file.directory).map fun directory =>
      (file.index, Path.join directory file.name.text)

def path? (index : UInt64) : Option Path := program.paths.lookup index

theorem map_filterMap_sublist {α β γ : Type} {select : α → Option β} {shown : β → γ} {known : α → γ}
    (kept : ∀ item value, select item = some value → shown value = known item) (items : List α) :
    ((items.filterMap select).map shown).Sublist (items.map known) := by
  induction items with
  | nil => exact List.Sublist.slnil
  | cons item items ih =>
      rw [List.filterMap_cons, List.map_cons]
      cases selected : select item with
      | none => exact ih.cons (known item)
      | some value =>
          rw [List.map_cons, kept item value selected]
          exact ih.cons_cons (known item)

theorem distinct_paths : (program.paths.map Prod.fst).Nodup := by
  have kept : (program.paths.map Prod.fst).Sublist (program.files.map PrintedFile.index) := by
    apply map_filterMap_sublist
    intro file path listed
    obtain ⟨directory, _, rfl⟩ := Option.map_eq_some_iff.mp listed
    rfl
  exact kept.nodup program.distinctFiles

/-- Each program behind the title of the section. -/
def printed (programs : List LineProgram) : Text :=
  Text.unlines ("Raw dump of debug contents of section .debug_line:".toList :: [] ::
    programs.flatMap lines)

end LineProgram

namespace LineScan

variable (scan : LineScan)

theorem step_of_inert {line : Text} (inert : Inert line) (outside : scan.region = .outside) :
    scan.step line = scan :=
  step_outside scan (marker_of_inert inert) outside

theorem foldl_of_inert {lines : List Text} (inert : ∀ line ∈ lines, Inert line)
    (outside : scan.region = .outside) : lines.foldl step scan = scan := by
  induction lines with
  | nil => rfl
  | cons line lines ih =>
      rw [List.foldl_cons, step_of_inert scan (inert line List.mem_cons_self) outside]
      exact ih fun other member => inert other (List.mem_cons_of_mem line member)

theorem unitToken?_offsetLine (offset : UInt64) :
    Marker.unitToken? (LineProgram.offsetLine offset) =
      some (Numeral.markedHexadecimal offset) := by
  have word := Numeral.isWord_markedHexadecimal offset
  have blanks : ∀ c ∈ List.replicate 22 ' ', isBlank c = true := Text.blank_replicate 22
  have opening : (LineProgram.offsetLine offset).trimStart =
      Text.marked "Offset:" (List.replicate 22 ' ' ++ Numeral.markedHexadecimal offset) := by
    rw [LineProgram.offsetLine, Text.trimStart_append_blank (Text.blank_replicate 2),
      Text.trimStart_marked rfl rfl]
  have token : (Numeral.markedHexadecimal offset).takeWhile (!isBlank ·) =
      Numeral.markedHexadecimal offset := by
    rw [List.takeWhile_eq_self_iff]
    intro c member
    simp [word.2 c member]
  rw [Marker.unitToken?, opening, Text.after?_marked, Option.bind_eq_bind, Option.bind_some,
    Text.afterRun?_append (by simp) blanks word.isTrimmed.front, Option.bind_some, if_neg word.1,
    token]

theorem step_offsetLine (offset : UInt64) :
    scan.step (LineProgram.offsetLine offset) =
      { table := scan.finish, unit := some (.offset offset) } := by
  rw [step, Marker.ofLine?, unitToken?_offsetLine]
  simp only [UnitName.parse_markedHexadecimal]

theorem ofLine?_of_title {mark : String} {first : Char} {others : Text}
    (spelled : mark.toList = first :: others) (solid : isBlank first = false) (other : first ≠ 'O')
    (rest : Text) :
    Marker.ofLine? (' ' :: Text.marked mark rest) =
      if Text.startsWith "The Directory Table" (Text.marked mark rest) then some .directories
      else if Text.startsWith "The File Name Table" (Text.marked mark rest) then some .files
      else if Text.startsWith "Line Number Statements" (Text.marked mark rest) then some .statements
      else if Text.startsWith "No Line Number Statements" (Text.marked mark rest) then
        some .statements
      else none := by
  have opening : Text.trimStart (' ' :: Text.marked mark rest) = Text.marked mark rest := by
    rw [Text.trimStart_cons_blank rfl, Text.trimStart_marked spelled solid]
  have programless : Marker.unitToken? (' ' :: Text.marked mark rest) = none := by
    rw [Marker.unitToken?, opening, Text.after?_marked_of_ne rfl spelled other]
    rfl
  rw [Marker.ofLine?, programless, opening]

theorem step_directoriesTitle (empty : Bool) (note : Text) :
    scan.step (tableTitle "The Directory Table" empty note) =
      { scan with region := .directories } := by
  rw [step, tableTitle, ofLine?_of_title rfl rfl (by decide), Text.startsWith_marked, if_pos rfl]

theorem step_filesTitle (empty : Bool) (note : Text) :
    scan.step (tableTitle "The File Name Table" empty note) = { scan with region := .files } := by
  have other : ∀ rest, Text.startsWith "The Directory Table"
      (Text.marked "The File Name Table" rest) = false := by
    intro rest
    simp [Text.startsWith, Text.marked, List.isPrefixOf]
  rw [step, tableTitle, ofLine?_of_title rfl rfl (by decide), other, Text.startsWith_marked,
    if_neg Bool.false_ne_true, if_pos rfl]

theorem ofLine?_of_statements {mark : String} {first : Char} {others : Text}
    (spelled : mark.toList = first :: others) (solid : isBlank first = false)
    (differ : first ≠ 'O' ∧ first ≠ 'T') {rest : Text}
    (title : Text.startsWith "Line Number Statements" (Text.marked mark rest) = true ∨
      Text.startsWith "No Line Number Statements" (Text.marked mark rest) = true) :
    Marker.ofLine? (' ' :: Text.marked mark rest) = some .statements := by
  have noDirectories : Text.startsWith "The Directory Table" (Text.marked mark rest) = false :=
    Text.startsWith_marked_of_ne rfl spelled differ.2 rest
  have noFiles : Text.startsWith "The File Name Table" (Text.marked mark rest) = false :=
    Text.startsWith_marked_of_ne rfl spelled differ.2 rest
  rw [ofLine?_of_title spelled solid differ.1, noDirectories, noFiles,
    if_neg Bool.false_ne_true, if_neg Bool.false_ne_true]
  rcases title with statements | nothing
  · rw [if_pos statements]
  · rw [if_pos nothing, ite_self]

theorem step_statementsTitle (program : LineProgram) :
    scan.step program.statementsTitle = { scan with region := .outside } := by
  have title : Marker.ofLine? program.statementsTitle = some .statements := by
    rw [LineProgram.statementsTitle]
    split
    · exact ofLine?_of_statements rfl rfl (by decide) (Or.inr (Text.startsWith_marked _ _))
    · exact ofLine?_of_statements rfl rfl (by decide) (Or.inl (Text.startsWith_marked _ _))
  rw [step, title]

theorem step_directory (inside : scan.region = .directories) (directory : PrintedDirectory) :
    scan.step directory.row =
      { scan with directories := (directory.index, directory.name.text) :: scan.directories } := by
  rw [step_directories scan (marker_of_inert directory.inert_row) inside, directoryRow,
    directory.fields_row]
  simp only [Numeral.parse?_decimal, directory.name.plainName_printed]

theorem step_file {layout : Layout} (inside : scan.region = .files)
    (told : scan.columns = layout.columns) {file : PrintedFile}
    (aligned : file.columns.length = layout.titles.length) :
    scan.step file.row = { scan with
      files := ((scan.directories.lookup file.directory).map fun directory =>
        (file.index, Path.join directory file.name.text)).toList ++ scan.files } := by
  have read := file.fileRow?_row aligned
  rw [← told] at read
  rw [step_files scan (marker_of_inert file.inert_row) inside, fileRow, file.untitled_row,
    if_neg Bool.false_ne_true, read]
  simp only
  cases scan.directories.lookup file.directory with
  | none => rfl
  | some directory => rfl

theorem step_header (inside : scan.region = .files) (layout : Layout) :
    scan.step layout.header = { scan with columns := layout.columns } := by
  have inert : Inert layout.header := inert_of_head layout.trimStart_header (by decide)
  have titled : Text.startsWith "Entry" layout.header.trimStart = true := by
    rw [layout.trimStart_header]
    exact Text.startsWith_marked "Entry" _
  rw [step_files scan (marker_of_inert inert) inside, fileRow, titled, if_pos rfl,
    layout.ofHeader?_header]
  rfl

theorem step_directoriesHeader (inside : scan.region = .directories) :
    scan.step (tableRow ["Entry".toList] "Name".toList) = scan := by
  have entry : ∀ field ∈ ["Entry".toList], Text.IsWord field := by
    intro field member
    rw [List.mem_singleton.mp member]
    exact isWord_titles.1
  have name := isWord_titles.2.2.isTrimmed
  have front : (tableRow ["Entry".toList] "Name".toList).trimStart =
      tabbed ["Entry".toList] "Name".toList := trimStart_tableRow entry name (by decide)
  have fields : (tableRow ["Entry".toList] "Name".toList).fields 2 =
      ["Entry".toList, "Name".toList] := fields_tableRow entry name
  have unread : Numeral.parse? .decimal "Entry".toList = none := by decide
  rw [step_directories scan (marker_of_inert (inert_of_head front (by decide))) inside,
    directoryRow, fields]
  simp only [unread]

theorem foldl_directories (inside : scan.region = .directories)
    (directories : List PrintedDirectory) :
    (directories.map PrintedDirectory.row).foldl step scan = { scan with
      directories := (directories.map fun directory =>
        (directory.index, directory.name.text)).reverse ++ scan.directories } := by
  induction directories generalizing scan with
  | nil => rfl
  | cons directory directories ih =>
      have later := ih (scan.step directory.row)
      rw [step_directory scan inside] at later
      rw [List.map_cons, List.foldl_cons, step_directory scan inside, later inside]
      simp

theorem foldl_files {layout : Layout} (inside : scan.region = .files)
    (told : scan.columns = layout.columns) {files : List PrintedFile}
    (aligned : ∀ file ∈ files, file.columns.length = layout.titles.length) :
    (files.map PrintedFile.row).foldl step scan = { scan with
      files := (files.filterMap fun file => (scan.directories.lookup file.directory).map
        fun directory => (file.index, Path.join directory file.name.text)).reverse ++
          scan.files } := by
  induction files generalizing scan with
  | nil => rfl
  | cons file files ih =>
      have here := aligned file List.mem_cons_self
      have others := fun other member => aligned other (List.mem_cons_of_mem file member)
      have later := ih (scan.step file.row)
      rw [step_file scan inside told here] at later
      rw [List.map_cons, List.foldl_cons, step_file scan inside told here,
        later inside told others, List.filterMap_cons]
      cases scan.directories.lookup file.directory with
      | none => rfl
      | some directory => simp

theorem foldl_directoryTable (program : LineProgram) :
    program.directoryTable.foldl step scan = { scan with
      region := .directories
      directories := program.directoryNames.reverse ++ scan.directories } := by
  have rows := foldl_directories { scan with region := .directories } rfl program.directories
  have lines : program.directoryLines.foldl step { scan with region := .directories } =
      { scan with
        region := .directories
        directories := program.directoryNames.reverse ++ scan.directories } := by
    rw [LineProgram.directoryLines]
    split
    · rw [List.foldl_cons, step_directoriesHeader { scan with region := .directories } rfl, rows]
      rfl
    · exact rows
  rw [LineProgram.directoryTable, List.foldl_cons, step_directoriesTitle, List.foldl_append, lines,
    List.foldl_cons, step_nil, List.foldl_nil]

/-- The columns are told by the row above the files, which is left out with them. -/
theorem foldl_fileTable (program : LineProgram) :
    program.fileTable.foldl step scan = { scan with
      region := .files
      columns := if program.files.isEmpty then scan.columns else program.layout.columns
      files := (program.files.filterMap fun file => (scan.directories.lookup file.directory).map
        fun directory => (file.index, Path.join directory file.name.text)).reverse ++
          scan.files } := by
  rw [LineProgram.fileTable, List.foldl_cons, step_filesTitle, List.foldl_append,
    LineProgram.fileLines]
  split
  · next empty =>
      rw [List.isEmpty_iff.mp empty, List.foldl_nil, List.foldl_cons, step_nil, List.foldl_nil]
      rfl
  · have rows := foldl_files { scan with region := .files, columns := program.layout.columns } rfl
      rfl program.aligned
    have titled := step_header { scan with region := .files } rfl program.layout
    have lines : (program.layout.header :: program.files.map PrintedFile.row).foldl step
        { scan with region := .files } = _ := (congrArg (List.foldl step · _) titled).trans rows
    rw [lines, List.foldl_cons, step_nil, List.foldl_nil]

theorem lookup_reverse {α β : Type} [BEq α] [LawfulBEq α] {entries : List (α × β)}
    (distinct : (entries.map Prod.fst).Nodup) (key : α) :
    entries.reverse.lookup key = entries.lookup key := by
  have turned : (entries.reverse.map Prod.fst).Nodup := by
    rw [List.map_reverse]
    exact List.pairwise_reverse.mpr (distinct.imp Ne.symm)
  apply Option.ext
  intro value
  rw [lookup_eq_some_iff_mem turned, lookup_eq_some_iff_mem distinct, List.mem_reverse]

theorem foldl_lines (program : LineProgram) :
    program.lines.foldl step scan = {
      table := scan.finish
      unit := some (.offset program.offset)
      region := .outside
      columns := if program.files.isEmpty then {} else program.layout.columns
      directories := program.directoryNames.reverse
      files := program.paths.reverse } := by
  have header : ∀ line ∈ program.header, Inert line := fun line member =>
    program.inert line (List.mem_append_left program.statements member)
  have statements : ∀ line ∈ program.statements, Inert line := fun line member =>
    program.inert line (List.mem_append_right program.header member)
  have distinct : (program.directoryNames.map Prod.fst).Nodup := by
    rw [LineProgram.directoryNames, List.map_map]
    exact program.distinctDirectories
  rw [LineProgram.lines, List.foldl_cons, step_offsetLine, List.foldl_append,
    foldl_of_inert _ header rfl, List.foldl_append, foldl_directoryTable, List.foldl_append,
    foldl_fileTable, List.foldl_cons, step_statementsTitle, foldl_of_inert _ statements rfl]
  simp only [List.append_nil, lookup_reverse distinct]
  rfl

/-- A program adds its own files and leaves those of other programs alone. -/
theorem path?_foldl_lines (program : LineProgram) (unit : UnitName) (index : UInt64) :
    (program.lines.foldl step scan).finish.path? unit index =
      if .offset program.offset = unit then
        (program.path? index).or (scan.finish.path? unit index)
      else scan.finish.path? unit index := by
  rw [foldl_lines, path?_finish]
  simp only [lookup_reverse program.distinct_paths, Option.some.injEq]
  rfl

theorem path?_foldl_others {programs : List LineProgram} {unit : UnitName}
    (others : ∀ program ∈ programs, .offset program.offset ≠ unit) (index : UInt64) :
    ((programs.flatMap LineProgram.lines).foldl step scan).finish.path? unit index =
      scan.finish.path? unit index := by
  induction programs generalizing scan with
  | nil => rfl
  | cons program programs ih =>
      have here := others program List.mem_cons_self
      have later := ih (program.lines.foldl step scan) fun other member =>
        others other (List.mem_cons_of_mem program member)
      rw [List.flatMap_cons, List.foldl_append, later, path?_foldl_lines, if_neg here]

end LineScan

namespace LineProgram

theorem isLine_tableTitle {mark : String} (single : '\n' ∉ mark.toList) (empty : Bool) {note : Text}
    (oneLine : '\n' ∉ note) : Text.IsLine (tableTitle mark empty note) := by
  have front : '\n' ∉ ' ' :: mark.toList := by
    simp [single]
  rw [tableTitle, Text.marked, ← List.cons_append]
  split
  · have rest : Text.IsLine " is empty.".toList := by decide
    exact rest.append (by decide) front
  · have rest : Text.IsLine (' ' :: (note ++ [':'])) := by
      constructor
      · simp [oneLine]
      · simp [List.getLast?_cons]
    exact rest.append (List.cons_ne_nil _ _) front

theorem isLine_offsetLine (offset : UInt64) : Text.IsLine (offsetLine offset) := by
  have word := Numeral.isWord_markedHexadecimal offset
  have blanks : '\n' ∉ List.replicate 22 ' ' := by decide
  have mark : '\n' ∉ "Offset:".toList := by decide
  have behind := (word.isLine.append word.1 blanks).append (by simp) mark
  exact behind.append (by simp) (by decide)

theorem isLine_statementsTitle (program : LineProgram) : Text.IsLine program.statementsTitle := by
  rw [statementsTitle]
  split
  · decide
  · decide

theorem isLine_directoryLines {program : LineProgram} {line : Text}
    (member : line ∈ program.directoryLines) : Text.IsLine line := by
  have rows : line ∈ program.directories.map PrintedDirectory.row → Text.IsLine line := by
    intro shown
    obtain ⟨directory, _, rfl⟩ := List.mem_map.mp shown
    exact directory.isLine_row
  rw [directoryLines] at member
  split at member
  · rcases List.mem_cons.mp member with rfl | shown
    · decide
    · exact rows shown
  · exact rows member

theorem isLine_fileLines {program : LineProgram} {line : Text}
    (member : line ∈ program.fileLines) : Text.IsLine line := by
  rw [fileLines] at member
  split at member
  · cases member
  · rcases List.mem_cons.mp member with rfl | shown
    · exact program.layout.isLine_header
    · obtain ⟨file, _, rfl⟩ := List.mem_map.mp shown
      exact file.isLine_row

theorem isLine_of_mem_lines {program : LineProgram} {line : Text} (member : line ∈ program.lines) :
    Text.IsLine line := by
  have blank : Text.IsLine [] := by decide
  simp only [lines, directoryTable, fileTable, List.mem_cons, List.mem_append, List.not_mem_nil,
    or_false] at member
  rcases member with rfl | header | (rfl | row | rfl) | (rfl | row | rfl) | rfl | statement
  · exact isLine_offsetLine program.offset
  · exact program.whole line (List.mem_append_left program.statements header)
  · exact isLine_tableTitle (by decide) _ program.oneLine.1
  · exact isLine_directoryLines row
  · exact blank
  · exact isLine_tableTitle (by decide) _ program.oneLine.2
  · exact isLine_fileLines row
  · exact blank
  · exact isLine_statementsTitle program
  · exact program.whole line (List.mem_append_right program.header statement)

theorem lines_printed (programs : List LineProgram) :
    (printed programs).lines = "Raw dump of debug contents of section .debug_line:".toList :: [] ::
      programs.flatMap lines := by
  apply Text.lines_unlines_of_isLine
  intro line member
  rcases List.mem_cons.mp member with rfl | member
  · decide
  · rcases List.mem_cons.mp member with rfl | member
    · decide
    · obtain ⟨program, _, inside⟩ := List.mem_flatMap.mp member
      exact isLine_of_mem_lines inside

theorem ofLineDump_printed (programs : List LineProgram) :
    SourceTable.ofLineDump (printed programs) =
      ((programs.flatMap lines).foldl LineScan.step {}).finish := by
  have title : Inert "Raw dump of debug contents of section .debug_line:".toList :=
    inert_of_head rfl (by decide)
  rw [SourceTable.ofLineDump, lines_printed, List.foldl_cons, LineScan.step_of_inert {} title rfl,
    List.foldl_cons, LineScan.step_nil]

/-- Each of several programs is known by its own files. -/
theorem path?_printed {programs : List LineProgram}
    (distinct : (programs.map LineProgram.offset).Nodup) {program : LineProgram}
    (member : program ∈ programs) (index : UInt64) :
    (SourceTable.ofLineDump (printed programs)).path? (.offset program.offset) index =
      program.path? index := by
  obtain ⟨before, after, rfl⟩ := List.append_of_mem member
  rw [List.map_append, List.map_cons, List.nodup_append] at distinct
  obtain ⟨_, behind, apart⟩ := distinct
  have earlier : ∀ other ∈ before, UnitName.offset other.offset ≠ .offset program.offset := by
    intro other present same
    exact apart other.offset (List.mem_map_of_mem present) program.offset List.mem_cons_self
      (UnitName.offset.inj same)
  have later : ∀ other ∈ after, UnitName.offset other.offset ≠ .offset program.offset := by
    intro other present same
    have absent := (List.nodup_cons.mp behind).1
    exact absent (List.mem_map.mpr ⟨other, present, UnitName.offset.inj same⟩)
  calc (SourceTable.ofLineDump (printed (before ++ program :: after))).path?
        (.offset program.offset) index
      = (program.lines.foldl LineScan.step
            ((before.flatMap lines).foldl LineScan.step {})).finish.path?
          (.offset program.offset) index := by
        rw [ofLineDump_printed, List.flatMap_append, List.flatMap_cons, List.foldl_append,
          List.foldl_append, LineScan.path?_foldl_others _ later]
    _ = (program.path? index).or
          (((before.flatMap lines).foldl LineScan.step {}).finish.path?
            (.offset program.offset) index) := by
        rw [LineScan.path?_foldl_lines, if_pos rfl]
    _ = program.path? index := by
        rw [LineScan.path?_foldl_others {} earlier]
        exact Option.or_none

end LineProgram

end LiveRange
