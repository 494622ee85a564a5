import LiveRange.Proofs.SourceTable.RoundTrip

/-! The table read from printed programs has the files that they list and no others. Each program
has a layout of its own, which is forgotten at the header of the next one. -/

namespace LiveRange

namespace LineProgram

/-- The path of a file whose directory the program lists too. A rooted name is the whole path. -/
def ListsPath (program : LineProgram) (index : UInt64) (path : Path) : Prop :=
  ∃ file ∈ program.files, file.index = index ∧ ∃ directory ∈ program.directories,
    directory.index = file.directory ∧ path = Path.join directory.name.text file.name.text

theorem lookup_directoryNames_iff (program : LineProgram) (index : UInt64) (name : Text) :
    program.directoryNames.lookup index = some name ↔
      ∃ directory ∈ program.directories, directory.index = index ∧ directory.name.text = name := by
  have distinct : (program.directoryNames.map Prod.fst).Nodup := by
    rw [directoryNames, List.map_map]
    exact program.distinctDirectories
  rw [lookup_eq_some_iff_mem distinct, directoryNames, List.mem_map]
  simp only [Prod.mk.injEq]

theorem path?_eq_some_iff (program : LineProgram) (index : UInt64) (path : Path) :
    program.path? index = some path ↔ program.ListsPath index path := by
  rw [path?, lookup_eq_some_iff_mem program.distinct_paths, paths, List.mem_filterMap]
  simp only [Option.map_eq_some_iff, lookup_directoryNames_iff, Prod.mk.injEq]
  constructor
  · rintro ⟨file, listed, _, ⟨directory, known, same, rfl⟩, rfl, rfl⟩
    exact ⟨file, listed, rfl, directory, known, same, rfl⟩
  · rintro ⟨file, listed, rfl, directory, known, same, rfl⟩
    exact ⟨file, listed, _, ⟨directory, known, same, rfl⟩, rfl, rfl⟩

theorem path?_printed_of_absent {programs : List LineProgram} {unit : UnitName}
    (absent : ∀ program ∈ programs, .offset program.offset ≠ unit) (index : UInt64) :
    (SourceTable.ofLineDump (printed programs)).path? unit index = none := by
  rw [ofLineDump_printed, LineScan.path?_foldl_others {} absent]
  exact SourceTable.path?_empty unit index

/-- The entries of the table are the files of the programs whose directory is listed in the same
program, by the offset of that program. A name printed without a note is one that starts with
none, so that nothing of it is taken for a note. -/
theorem mem_entries_printed_iff {programs : List LineProgram}
    (distinct : (programs.map LineProgram.offset).Nodup) (key : SourceKey) (path : Path) :
    (key, path) ∈ (SourceTable.ofLineDump (printed programs)).entries ↔
      ∃ program ∈ programs, key.unit = .offset program.offset ∧
        program.ListsPath key.index path := by
  rw [SourceTable.mem_entries_iff]
  constructor
  · intro known
    by_cases present : ∃ program ∈ programs, .offset program.offset = key.unit
    · obtain ⟨program, member, same⟩ := present
      rw [← same, path?_printed distinct member, path?_eq_some_iff] at known
      exact ⟨program, member, same.symm, known⟩
    · have absent : ∀ program ∈ programs, .offset program.offset ≠ key.unit :=
        fun program member same => present ⟨program, member, same⟩
      rw [path?_printed_of_absent absent] at known
      cases known
  · rintro ⟨program, member, same, listed⟩
    rw [same, path?_printed distinct member, path?_eq_some_iff]
    exact listed

/-- A program with its tables and the one other line that tells its version. -/
def ofTables (offset : UInt64) (layout : Layout) (directories : List PrintedDirectory)
    (files : List PrintedFile)
    (aligned : ∀ file ∈ files, file.columns.length = layout.titles.length)
    (distinctDirectories : (directories.map PrintedDirectory.index).Nodup)
    (distinctFiles : (files.map PrintedFile.index).Nodup) : LineProgram where
  offset := offset
  layout := layout
  directories := directories
  files := files
  directoriesNote := "(offset 0x22)".toList
  filesNote := "(offset 0x2e)".toList
  header := ["  DWARF Version: 5".toList]
  statements := []
  aligned := aligned
  distinctDirectories := distinctDirectories
  distinctFiles := distinctFiles
  oneLine := by decide
  inert := by
    intro line member
    rw [List.append_nil, List.mem_singleton] at member
    rw [member]
    exact inert_of_head rfl (by decide)
  whole := by decide

/-- The names stand behind a column of checksums, that of the directory with a note. -/
def checksummed : LineProgram :=
  ofTables 0x40 { newer := true, titles := ["MD5".toList], solid := by decide, others := by decide }
    [{ index := 0
       name := { text := "/src dir".toList, note := some (true, 0x1f), trimmed := by decide
                 oneLine := by decide, plain := fun noteless => nomatch noteless } }]
    [{ index := 0, directory := 0, columns := ["0xab".toList]
       name := .bare "crc.c".toList (by decide) (by decide) (by decide), solid := by decide }]
    (by decide) (by decide) (by decide)

/-- One of the files is rooted, and one is in a directory that only another program lists. -/
def untimed : LineProgram :=
  ofTables 0x80 { newer := true, titles := [], solid := by decide, others := by decide }
    [{ index := 1, name := .bare "lib".toList (by decide) (by decide) (by decide) }]
    [{ index := 1, directory := 1, columns := []
       name := .bare "/usr/a b.h".toList (by decide) (by decide) (by decide), solid := by decide },
     { index := 2, directory := 0, columns := []
       name := .bare "lost.h".toList (by decide) (by decide) (by decide), solid := by decide }]
    (by decide) (by decide) (by decide)

def timed : LineProgram :=
  ofTables 0 .older
    [{ index := 1, name := .bare "lib".toList (by decide) (by decide) (by decide) }]
    [{ index := 1, directory := 1, columns := ["7".toList, "62".toList]
       name := .bare "b.c".toList (by decide) (by decide) (by decide), solid := by decide }]
    (by decide) (by decide) (by decide)

theorem mem_entries_printed_iff_mixedLayouts :
    ([checksummed, timed, untimed].map LineProgram.offset).Nodup ∧ ∀ key path,
      ((key, path) ∈ (SourceTable.ofLineDump (printed [checksummed, timed, untimed])).entries ↔
        ∃ program ∈ [checksummed, timed, untimed], key.unit = .offset program.offset ∧
          program.ListsPath key.index path) := by
  have distinct : ([checksummed, timed, untimed].map LineProgram.offset).Nodup := by decide
  exact ⟨distinct, mem_entries_printed_iff distinct⟩

example : checksummed.paths = [(0, "/src dir/crc.c".toList)] ∧
    timed.paths = [(1, "lib/b.c".toList)] ∧ untimed.paths = [(1, "/usr/a b.h".toList)] := by
  decide

end LineProgram

end LiveRange
