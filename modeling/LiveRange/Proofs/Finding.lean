import LiveRange.Finding
import LiveRange.Proofs.Entry.RoundTrip
import LiveRange.Proofs.LocationList.PlainLayout
import LiveRange.Proofs.SourceTable.RoundTrip

/-! What is found in the three dumps of a program is what the program says. -/

namespace LiveRange

/-- A compilation unit: its line-number program, the entry of the unit itself, which names that
program, and the entries of the unit. -/
structure ProgramUnit where
  program : LineProgram
  offset : UInt64
  header : List Text
  rootOffset : UInt64
  rootTitle : Text
  before : List (UInt64 × Untracked)
  programAt : UInt64
  after : List (UInt64 × Untracked)
  entries : List InfoEntry
  quiet : ∀ line ∈ header, Quiet line
  whole : ∀ line ∈ header, Text.IsLine line
  oneLine : '\n' ∉ rootTitle

namespace ProgramUnit

variable (unit : ProgramUnit)

def untrackedLine (shown : UInt64 × Untracked) : Text := (Detail.untracked shown.2).line shown.1

def root : List Text :=
  entryHeader 0 unit.rootOffset unit.rootTitle ::
    (unit.before.map untrackedLine ++
      programLine unit.programAt unit.program.offset :: unit.after.map untrackedLine)

def lines : List Text :=
  unitHeader unit.offset :: (unit.header ++ (unit.root ++ unit.entries.flatMap InfoEntry.lines))

/-- The declaration of the first entry of the unit that is declared there. -/
def declaration? (source : Path) (line : UInt64) : Option Declaration :=
  declarationIn? unit.program.path? (.offset unit.program.offset) source line none unit.entries

end ProgramUnit

/-- Units and location lists. An entry names the start of a list, or an offset that no row has. -/
structure Program where
  units : List ProgramUnit
  lists : List LocationList.PlainList
  width : Nat
  distinctPrograms : (units.map fun unit => unit.program.offset).Nodup
  distinctRows : (lists.flatMap LocationList.PlainList.offsets).Nodup
  unbased : ∀ list ∈ lists, list.leadingBase = []
  anchored : ∀ unit ∈ units, ∀ entry ∈ unit.entries, ∀ offset,
    entry.ownLocation? = some (some offset) →
      (∃ list ∈ lists, list.start = offset.value) ∨
        offset.value ∉ lists.flatMap LocationList.PlainList.offsets

namespace Program

variable (program : Program)

def dumps : Dumps where
  lines := LineProgram.printed (program.units.map ProgramUnit.program)
  info := Text.unlines ("Contents of the .debug_info section:".toList :: [] ::
    program.units.flatMap ProgramUnit.lines)
  locations := LocationList.PlainList.printed program.width program.lists

/-- The ranges of the list that starts there, if there is one. -/
def ranges (offset : ListOffset) : List AddressRange :=
  ((program.lists.find? (·.start == offset.value)).map LocationList.PlainList.ranges).getD []

/-- The first declaration in the order of units, and the ranges of the list in effect for it. -/
def finding (source : Path) (line : UInt64) : Finding :=
  match program.units.findSome? (ProgramUnit.declaration? · source line) with
  | none => .notDeclared
  | some declaration =>
    match declaration.location with
    | none => .noLocationList declaration
    | some offset =>
      match program.ranges offset with
      | [] => .noRanges declaration offset
      | ranges => .ranges declaration offset ranges

end Program

namespace LocationList.PlainList

variable (width : Nat)

theorem start_mem_offsets (list : PlainList) : list.start ∈ list.offsets := by
  obtain ⟨entries, close⟩ := list
  cases entries with
  | nil => exact List.mem_singleton_self close
  | cons first others => exact List.mem_cons_self

theorem offset_mem_offsets {list : PlainList} {entry : Entry} (member : entry ∈ list.entries) :
    entry.offset ∈ list.offsets :=
  List.mem_append_left [list.close] (List.mem_map_of_mem member)

theorem ranges_printed_of_distinct {lists : List PlainList}
    (distinct : (lists.flatMap offsets).Nodup) {list : PlainList} (member : list ∈ lists) :
    LocationList.ranges (printed width lists) ⟨list.start⟩ = list.leadingBase ++ list.ranges := by
  obtain ⟨before, after, rfl⟩ := List.append_of_mem member
  rw [List.flatMap_append, List.flatMap_cons, List.nodup_append] at distinct
  obtain ⟨_, behind, apart⟩ := distinct
  rw [List.nodup_append] at behind
  apply ranges_printed
  intro other present entry listed same
  rcases List.mem_append.mp present with earlier | later
  · have inside : entry.offset ∈ before.flatMap offsets :=
      List.mem_flatMap.mpr ⟨other, earlier, offset_mem_offsets listed⟩
    exact apart entry.offset inside list.start
      (List.mem_append_left _ list.start_mem_offsets) same
  · have inside : entry.offset ∈ after.flatMap offsets :=
      List.mem_flatMap.mpr ⟨other, later, offset_mem_offsets listed⟩
    exact behind.2.2 list.start list.start_mem_offsets entry.offset inside same.symm

theorem ranges_printed_of_absent {lists : List PlainList} {offset : UInt64}
    (absent : offset ∉ lists.flatMap offsets) :
    LocationList.ranges (printed width lists) ⟨offset⟩ = [] := by
  have others : ∀ list ∈ lists, ∀ entry ∈ list.entries, entry.offset ≠ offset := by
    rintro list present entry listed rfl
    exact absent (List.mem_flatMap.mpr ⟨list, present, offset_mem_offsets listed⟩)
  apply ranges_of_unopened
  rw [rows_printed]
  exact unopened_front width others

end LocationList.PlainList

namespace ProgramUnit

variable {unit : ProgramUnit}

/-- What stands before the entries of a unit. -/
def headInfoLines (unit : ProgramUnit) : List InfoLine :=
  .unitHeader :: (unit.header.map (fun _ => .other) ++ .entryHeader ::
    (unit.before.map (fun _ => .other) ++
      .tracked .stmtList (Numeral.markedHexadecimal unit.program.offset) ::
        unit.after.map fun _ => .other))

def infoLines (unit : ProgramUnit) : List InfoLine :=
  unit.headInfoLines ++ unit.entries.flatMap InfoEntry.infoLines

theorem newline_notMem_of_mem_lines {line : Text} (member : line ∈ unit.lines) : '\n' ∉ line := by
  simp only [lines, root, List.mem_cons, List.mem_append, List.mem_map, List.mem_flatMap] at member
  rcases member with rfl | header | (rfl | ⟨shown, _, rfl⟩ | rfl | ⟨shown, _, rfl⟩) |
    ⟨entry, _, inside⟩
  · exact (isLine_unitHeader unit.offset).single
  · exact (unit.whole line header).single
  · exact newline_notMem_entryHeader 0 unit.rootOffset unit.oneLine
  · exact (Detail.untracked shown.2).newline_notMem_line shown.1
  · exact newline_notMem_programLine unit.programAt unit.program.offset
  · exact (Detail.untracked shown.2).newline_notMem_line shown.1
  · exact InfoEntry.newline_notMem_of_mem_lines inside

theorem map_ofLine_untracked (shown : List (UInt64 × Untracked)) :
    (shown.map untrackedLine).map (InfoLine.ofLine ∘ Text.dropReturn) =
      shown.map fun _ => .other := by
  rw [List.map_map]
  apply List.map_congr_left
  intro attribution _
  rw [Function.comp_apply, Function.comp_apply, untrackedLine, Detail.ofLine_line]
  rfl

theorem map_ofLine_header (unit : ProgramUnit) :
    unit.header.map (InfoLine.ofLine ∘ Text.dropReturn) = unit.header.map fun _ => .other := by
  apply List.map_congr_left
  intro line member
  rw [Function.comp_apply, Text.dropReturn_of_back (unit.whole line member).back,
    ofLine_of_quiet (unit.quiet line member)]

theorem map_ofLine_root (unit : ProgramUnit) :
    unit.root.map (InfoLine.ofLine ∘ Text.dropReturn) =
      .entryHeader :: (unit.before.map (fun _ => .other) ++
        .tracked .stmtList (Numeral.markedHexadecimal unit.program.offset) ::
          unit.after.map fun _ => .other) := by
  rw [root, List.map_cons, List.map_append, List.map_cons, Function.comp_apply, Function.comp_apply,
    ofLine_entryHeader, ofLine_programLine, map_ofLine_untracked, map_ofLine_untracked]

theorem map_ofLine_lines (unit : ProgramUnit) :
    unit.lines.map (InfoLine.ofLine ∘ Text.dropReturn) = unit.infoLines := by
  have opening : InfoLine.ofLine (Text.dropReturn (unitHeader unit.offset)) = .unitHeader := by
    rw [Text.dropReturn_of_back (isLine_unitHeader unit.offset).back, ofLine_unitHeader]
  have entries : (unit.entries.flatMap InfoEntry.lines).map (InfoLine.ofLine ∘ Text.dropReturn) =
      unit.entries.flatMap InfoEntry.infoLines := by
    rw [List.map_flatMap]
    simp only [InfoEntry.map_ofLine_lines]
  rw [lines, List.map_cons, List.map_append, List.map_append, Function.comp_apply, opening,
    map_ofLine_header, map_ofLine_root, entries, infoLines, headInfoLines]
  simp only [List.cons_append, List.append_assoc]

theorem filterMap_others {α β : Type} {sets : InfoLine → Option β} (silent : sets .other = none)
    (items : List α) : (items.map fun _ => InfoLine.other).filterMap sets = [] := by
  rw [List.filterMap_map]
  exact List.filterMap_eq_nil_iff.mpr fun _ _ => silent

theorem unit_foldl_headInfoLines (unit : ProgramUnit) (scan : EntryScan) :
    (unit.headInfoLines.foldl EntryScan.step scan).unit = some (.offset unit.program.offset) := by
  have token : (Text.words (Numeral.markedHexadecimal unit.program.offset)).head?.map
      UnitName.parse = some (.offset unit.program.offset) := by
    rw [(Numeral.isWord_markedHexadecimal unit.program.offset).words, List.head?_cons,
      Option.map_some, UnitName.parse_markedHexadecimal]
  have set : unit.headInfoLines.filterMap InfoLine.setsUnit =
      [none, some (.offset unit.program.offset)] := by
    simp only [headInfoLines, List.filterMap_cons, List.filterMap_append, InfoLine.setsUnit, token,
      filterMap_others (rfl : InfoLine.setsUnit .other = none), List.nil_append]
  rw [EntryScan.unit_foldl, latest?_eq_getLast?, set]
  rfl

theorem location_foldl_headInfoLines (unit : ProgramUnit) (scan : EntryScan) :
    (unit.headInfoLines.foldl EntryScan.step scan).location = none := by
  have set : unit.headInfoLines.filterMap InfoLine.setsLocation = [none] := by
    simp only [headInfoLines, List.filterMap_cons, List.filterMap_append, InfoLine.setsLocation,
      filterMap_others (rfl : InfoLine.setsLocation .other = none), List.nil_append]
  rw [EntryScan.location_foldl, latest?_eq_getLast?, set]
  rfl

theorem find?_infoLines {table : SourceTable}
    (paths : ∀ index, table.path? (.offset unit.program.offset) index = unit.program.path? index)
    (source : Path) (line : UInt64) {rest : List InfoLine} (ends : trailingLocation? rest = none)
    (scan : EntryScan) :
    EntryScan.find? table source line scan (unit.infoLines ++ rest) =
      (unit.declaration? source line).or
        (EntryScan.find? table source line (unit.infoLines.foldl EntryScan.step scan) rest) := by
  have unclosed : ∀ value, .tracked .declLine value ∉ unit.headInfoLines := by
    intro value member
    simp [headInfoLines] at member
  have known : table.path? (.offset unit.program.offset) = unit.program.path? := funext paths
  have read : EntryScan.find? table source line
      (unit.headInfoLines.foldl EntryScan.step scan)
      (unit.entries.flatMap InfoEntry.infoLines ++ rest) = _ :=
    EntryScan.find?_entries unit.entries (unit_foldl_headInfoLines unit scan) ends
  rw [infoLines, List.append_assoc, EntryScan.find?_append unclosed, read, known,
    location_foldl_headInfoLines, List.foldl_append]
  rfl

theorem find?_units {table : SourceTable} {units : List ProgramUnit}
    (paths : ∀ unit ∈ units, ∀ index,
      table.path? (.offset unit.program.offset) index = unit.program.path? index)
    (source : Path) (line : UInt64) (scan : EntryScan) :
    EntryScan.find? table source line scan (units.flatMap infoLines) =
      units.findSome? (declaration? · source line) := by
  induction units generalizing scan with
  | nil => rfl
  | cons unit units ih =>
      have ends : trailingLocation? (units.flatMap infoLines) = none := by
        cases units with
        | nil => rfl
        | cons next units => rfl
      have here := paths unit List.mem_cons_self
      have later := ih fun other member => paths other (List.mem_cons_of_mem unit member)
      calc EntryScan.find? table source line scan ((unit :: units).flatMap infoLines)
          = (unit.declaration? source line).or (EntryScan.find? table source line
              (unit.infoLines.foldl EntryScan.step scan) (units.flatMap infoLines)) := by
            rw [List.flatMap_cons, find?_infoLines here source line ends]
        _ = (unit.declaration? source line).or
              (units.findSome? (declaration? · source line)) := by
            rw [later]
        _ = (unit :: units).findSome? (declaration? · source line) := by
            rw [List.findSome?_cons]
            cases unit.declaration? source line <;> rfl

end ProgramUnit

namespace Program

theorem infoLines_dumps (program : Program) :
    program.dumps.info.lines.map InfoLine.ofLine =
      .other :: .other :: program.units.flatMap ProgramUnit.infoLines := by
  have single : ∀ line ∈ "Contents of the .debug_info section:".toList :: [] ::
      program.units.flatMap ProgramUnit.lines, '\n' ∉ line := by
    intro line member
    rcases List.mem_cons.mp member with rfl | member
    · decide
    · rcases List.mem_cons.mp member with rfl | member
      · decide
      · obtain ⟨unit, _, inside⟩ := List.mem_flatMap.mp member
        exact ProgramUnit.newline_notMem_of_mem_lines inside
  have title : (InfoLine.ofLine ∘ Text.dropReturn) "Contents of the .debug_info section:".toList =
      .other := by decide
  have blank : (InfoLine.ofLine ∘ Text.dropReturn) [] = .other := by decide
  rw [dumps, Text.lines_unlines single, List.map_map, List.map_cons, List.map_cons, title, blank,
    List.map_flatMap]
  simp only [ProgramUnit.map_ofLine_lines]

theorem declaration?_dumps (program : Program) (source : Path) (line : UInt64) :
    Declaration.find? program.dumps.info (SourceTable.ofLineDump program.dumps.lines) source line =
      program.units.findSome? (ProgramUnit.declaration? · source line) := by
  have distinct : ((program.units.map ProgramUnit.program).map LineProgram.offset).Nodup := by
    rw [List.map_map]
    exact program.distinctPrograms
  have paths : ∀ unit ∈ program.units, ∀ index,
      (SourceTable.ofLineDump program.dumps.lines).path? (.offset unit.program.offset) index =
        unit.program.path? index := fun unit member index =>
    LineProgram.path?_printed distinct (List.mem_map_of_mem member) index
  rw [Declaration.find?, infoLines_dumps, EntryScan.find?_cons (by simp),
    EntryScan.find?_cons (by simp), ProgramUnit.find?_units paths]

/-- The location of a declaration is one of an entry. -/
theorem ownLocation?_of_declaration? {program : Program} {source : Path} {line : UInt64}
    {declaration : Declaration} {offset : ListOffset}
    (found : program.units.findSome? (ProgramUnit.declaration? · source line) = some declaration)
    (located : declaration.location = some offset) :
    ∃ unit ∈ program.units, ∃ entry ∈ unit.entries, entry.ownLocation? = some (some offset) := by
  obtain ⟨unit, member, here⟩ := List.exists_of_findSome?_eq_some found
  exact ⟨unit, member, ownLocation?_of_declarationIn? here located⟩

theorem ranges_dumps {program : Program} {unit : ProgramUnit} (present : unit ∈ program.units)
    {entry : InfoEntry} (listed : entry ∈ unit.entries) {offset : ListOffset}
    (located : entry.ownLocation? = some (some offset)) :
    LocationList.ranges program.dumps.locations offset = program.ranges offset := by
  cases found : program.lists.find? (·.start == offset.value) with
  | some list =>
      have member := List.mem_of_find?_eq_some found
      have start : list.start = offset.value := by simpa using List.find?_some found
      have read := LocationList.PlainList.ranges_printed_of_distinct program.width
        program.distinctRows member
      rw [start, program.unbased list member, List.nil_append] at read
      rw [ranges, found]
      exact read
  | none =>
      have nothing : offset.value ∉ program.lists.flatMap LocationList.PlainList.offsets := by
        rcases program.anchored unit present entry listed offset located with
          ⟨list, member, start⟩ | absent
        · have other := List.find?_eq_none.mp found list member
          simp [start] at other
        · exact absent
      rw [ranges, found]
      exact LocationList.PlainList.ranges_printed_of_absent program.width nothing

/-- The dumps of a program are read as what the program says. -/
theorem finding_dumps (program : Program) (source : Path) (line : UInt64) :
    program.dumps.finding source line = program.finding source line := by
  rw [Dumps.finding, declaration?_dumps, finding]
  cases found : program.units.findSome? (ProgramUnit.declaration? · source line) with
  | none => rfl
  | some declaration =>
      cases located : declaration.location with
      | none => simp only [located]
      | some offset =>
          obtain ⟨unit, present, entry, listed, own⟩ := ownLocation?_of_declaration? found located
          have read := ranges_dumps present listed own
          cases shown : program.ranges offset with
          | nil => simp only [located, read, shown]
          | cons first others => simp only [located, read, shown]

end Program

def sourceDirectory : PrintedDirectory where
  index := 1
  name := .bare "/src".toList (by decide) (by decide) (by decide)

def mainFile : PrintedFile where
  index := 1
  directory := 1
  columns := ["0".toList, "0".toList]
  name := .bare "main.c".toList (by decide) (by decide) (by decide)
  solid := by decide

def mainProgram : LineProgram where
  offset := 0
  layout := .older
  directories := [sourceDirectory]
  files := [mainFile]
  directoriesNote := []
  filesNote := []
  header := []
  statements := []
  aligned := by
    intro file member
    rw [List.mem_singleton.mp member]
    rfl
  distinctDirectories := by decide
  distinctFiles := by decide
  oneLine := by decide
  inert := fun _ member => nomatch member
  whole := fun _ member => nomatch member

/-- The location is printed behind the line. -/
def localVariable : InfoEntry where
  depth := 1
  offset := 0x2d
  title := "2 (DW_TAG_variable)".toList
  details := [(0x2e, .declFile 1), (0x2f, .declLine 12), (0x30, .location (.list ⟨0⟩))]
  oneLine := by decide
  paired := Or.inr ⟨1, 12, rfl⟩
  located := by decide

def mainUnit : ProgramUnit where
  program := mainProgram
  offset := 0
  header := []
  rootOffset := 0xb
  rootTitle := "1 (DW_TAG_compile_unit)".toList
  before := []
  programAt := 0xc
  after := []
  entries := [localVariable]
  quiet := fun _ member => nomatch member
  whole := fun _ member => nomatch member
  oneLine := by decide

def mainUnits : Program where
  units := [mainUnit]
  lists := [LocationList.PlainList.otherList]
  width := 8
  distinctPrograms := by decide
  distinctRows := by decide
  unbased := by
    intro list member
    rw [List.mem_singleton.mp member]
    rfl
  anchored := by
    intro unit present entry listed offset located
    rw [List.mem_singleton.mp present] at listed
    rw [List.mem_singleton.mp listed] at located
    refine Or.inl ⟨_, List.mem_cons_self, ?_⟩
    cases located
    rfl

example : mainUnits.finding "/src/main.c".toList 12 =
    .ranges { unit := .offset 0, index := 1, path := "/src/main.c".toList, line := 12,
              location := some ⟨0⟩ } ⟨0⟩ [{ start := 0x10, stop := 0x18 }] := by
  decide

end LiveRange
