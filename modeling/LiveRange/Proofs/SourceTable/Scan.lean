import LiveRange.Proofs.SourceTable.Markers
import LiveRange.Proofs.SourceTable.Names
import Mathlib.Data.List.Basic

/-! What one line of a dump of line-number programs changes: the region, the columns and the
directories that later rows are read with, and the path that the finished table has for a file. -/

namespace LiveRange

/-- A row of a directory: its index and its name. -/
def ListsDirectory (row : Text) (index : UInt64) (name : Text) : Prop :=
  ∃ first field, row.fields 2 = [first, field] ∧ Numeral.parse? .decimal first = some index ∧
    NameIn field name

/-- A row of titles: where it has those of the directory and of the name. -/
structure TellsColumns (row : Text) (columns : Columns) : Prop where
  titled : row.trimStart.startsWith "Entry" = true
  dir : row.words.idxOf? "Dir".toList = some columns.dir
  name : row.words.idxOf? "Name".toList = some columns.name
  ordered : columns.dir < columns.name

/-- The index of a file stands in front of its directory, and that in front of its name. -/
structure Columns.Ordered (columns : Columns) : Prop where
  indexed : 1 ≤ columns.dir
  named : columns.dir < columns.name

/-- The columns of the older layout. -/
theorem Columns.ordered_default : Ordered {} where
  indexed := by decide
  named := by decide

/-- The first title starts with the mark of the row, so it is not that of the directory. -/
theorem TellsColumns.columns_ordered {row : Text} {columns : Columns}
    (told : TellsColumns row columns) : columns.Ordered where
  indexed := by
    obtain ⟨rest, opening⟩ := Text.startsWith_iff.mp told.titled
    have solid : isBlank 'E' = false := rfl
    obtain ⟨word, others, words, _⟩ := Text.words_cons_solid solid ("ntry".toList ++ rest)
    have first : row.words = ('E' :: word) :: others := by
      rw [← Text.words_trimStart, ← opening, ← words]
      rfl
    have found := told.dir
    rw [first, List.idxOf?_cons, if_neg (by simp)] at found
    obtain ⟨column, _, next⟩ := Option.map_eq_some_iff.mp found
    omega
  named := told.ordered

/-- A row of a file: as many fields as there are columns, with the numbers of the file and of its
directory among them, and the name last. -/
structure ListsFile (columns : Columns) (row : Text) (index directory : UInt64)
    (name : Text) : Prop where
  untitled : row.trimStart.startsWith "Entry" = false
  length : (row.fields (columns.name + 1)).length = columns.name + 1
  index : (row.fields (columns.name + 1))[0]?.bind (Numeral.parse? .decimal) = some index
  directory : (row.fields (columns.name + 1))[columns.dir]?.bind (Numeral.parse? .decimal) =
    some directory
  name : (row.fields (columns.name + 1))[columns.name]? = some name

theorem lookup_cons_eq_some_iff {α β : Type} [BEq α] [LawfulBEq α] {key known : α}
    {value other : β} {entries : List (α × β)} :
    ((known, other) :: entries).lookup key = some value ↔
      key = known ∧ other = value ∨ key ≠ known ∧ entries.lookup key = some value := by
  rw [List.lookup_cons]
  by_cases same : key = known
  · simp [same]
  · have unequal : (key == known) = false := by simpa using same
    simp [same, unequal]

theorem lookup_eq_some_iff_mem {α β : Type} [BEq α] [LawfulBEq α] {entries : List (α × β)}
    (distinct : (entries.map Prod.fst).Nodup) {key : α} {value : β} :
    entries.lookup key = some value ↔ (key, value) ∈ entries := by
  induction entries with
  | nil => simp
  | cons entry entries ih =>
      obtain ⟨known, other⟩ := entry
      rw [List.map_cons, List.nodup_cons] at distinct
      rw [lookup_cons_eq_some_iff, ih distinct.2, List.mem_cons, Prod.mk.injEq]
      constructor
      · rintro (⟨rfl, rfl⟩ | ⟨_, member⟩)
        · exact Or.inl ⟨rfl, rfl⟩
        · exact Or.inr member
      · rintro (⟨rfl, rfl⟩ | member)
        · exact Or.inl ⟨rfl, rfl⟩
        · refine Or.inr ⟨?_, member⟩
          rintro rfl
          exact distinct.1 (List.mem_map.mpr ⟨(key, value), member, rfl⟩)

theorem SourceTable.mem_entries_iff (table : SourceTable) (key : SourceKey) (path : Path) :
    (key, path) ∈ table.entries ↔ table.path? key.unit key.index = some path :=
  (lookup_eq_some_iff_mem table.distinct).symm

namespace Columns

theorem ofHeader?_eq_some_iff {row : Text} {columns : Columns}
    (titled : row.trimStart.startsWith "Entry" = true) :
    ofHeader? row = some columns ↔ TellsColumns row columns := by
  constructor
  · intro told
    simp only [ofHeader?, Option.bind_eq_bind, Option.bind_eq_some_iff] at told
    obtain ⟨dir, dirFound, name, nameFound, rest⟩ := told
    split_ifs at rest with ordered
    cases rest
    exact ⟨titled, dirFound, nameFound, ordered⟩
  · rintro ⟨_, dir, name, ordered⟩
    simp only [ofHeader?, dir, name, Option.bind_eq_bind, Option.bind_some, if_pos ordered]

theorem fileRow?_eq_some_iff {columns : Columns} {row : Text} {file : FileRow}
    (untitled : row.trimStart.startsWith "Entry" = false) :
    columns.fileRow? row = some file ↔ ∃ field,
      ListsFile columns row file.index file.directory field ∧ plainName field = file.name := by
  constructor
  · intro read
    simp only [fileRow?, Option.bind_eq_bind, Option.bind_eq_some_iff] at read
    obtain ⟨first, firstFound, index, indexRead, second, secondFound, directory, directoryRead,
      field, fieldFound, result⟩ := read
    cases result
    have short := (List.getElem?_eq_some_iff.mp fieldFound).1
    refine ⟨field, ⟨untitled, ?_, ?_, ?_, fieldFound⟩, rfl⟩
    · exact Nat.le_antisymm (Text.length_fields_le columns.name row) short
    · exact Option.bind_eq_some_iff.mpr ⟨first, firstFound, indexRead⟩
    · exact Option.bind_eq_some_iff.mpr ⟨second, secondFound, directoryRead⟩
  · rintro ⟨field, ⟨_, _, indexRead, directoryRead, fieldFound⟩, named⟩
    obtain ⟨first, firstFound, index⟩ := Option.bind_eq_some_iff.mp indexRead
    obtain ⟨second, secondFound, directory⟩ := Option.bind_eq_some_iff.mp directoryRead
    simp only [fileRow?, firstFound, index, secondFound, directory, fieldFound, named,
      Option.bind_eq_bind, Option.bind_some]
    rfl

end Columns

namespace LineScan

variable (scan : LineScan)

theorem path?_insertAll (table : SourceTable) (files : List (UInt64 × Path)) (unit : UnitName)
    (other : UnitName) (index : UInt64) :
    (files.foldr (fun file table => table.insert { unit, index := file.1 } file.2) table).path?
        other index =
      if unit = other then (files.lookup index).or (table.path? other index)
      else table.path? other index := by
  induction files with
  | nil =>
      rw [List.foldr_nil, List.lookup_nil, Option.none_or]
      split <;> rfl
  | cons file files ih =>
      rw [List.foldr_cons, SourceTable.path?_insert, ih, List.lookup_cons]
      by_cases same : unit = other
      · subst same
        by_cases named : file.1 = index
        · subst named
          simp
        · have unequal : (index == file.1) = false := by simpa using Ne.symm named
          simp [named, unequal]
      · simp [same]

theorem path?_finish (unit : UnitName) (index : UInt64) :
    scan.finish.path? unit index =
      if scan.unit = some unit then (scan.files.lookup index).or (scan.table.path? unit index)
      else scan.table.path? unit index := by
  rw [finish]
  cases current : scan.unit with
  | none => rfl
  | some named =>
      simp only [path?_insertAll, Option.some.injEq]

section Step

variable {line : Text}

theorem step_of_header {token : Text} (header : Marker.ofLine? line = some (.unit token)) :
    scan.step line = { table := scan.finish, unit := some (UnitName.parse token) } := by
  rw [step, header]

theorem step_of_title {marker : Marker} (title : Marker.ofLine? line = some marker)
    (inside : marker.IsTitle) : scan.step line = { scan with region := marker.region } := by
  rw [step, title]
  cases marker with
  | unit token => exact absurd rfl (inside token)
  | directories => rfl
  | files => rfl
  | statements => rfl

theorem step_outside (plain : Marker.ofLine? line = none) (outside : scan.region = .outside) :
    scan.step line = scan := by
  rw [step, plain]
  simp only [outside]

theorem step_directories (plain : Marker.ofLine? line = none)
    (inside : scan.region = .directories) : scan.step line = scan.directoryRow line := by
  rw [step, plain]
  simp only [inside]

theorem step_files (plain : Marker.ofLine? line = none) (inside : scan.region = .files) :
    scan.step line = scan.fileRow line := by
  rw [step, plain]
  simp only [inside]

theorem step_nil : scan.step [] = scan := by
  have plain : Marker.ofLine? [] = none := rfl
  have nothing (limit : Nat) : Text.fields limit [] = [] := by
    rcases limit with _ | _ | limit <;> rfl
  cases inside : scan.region with
  | outside => exact step_outside scan plain inside
  | directories => exact step_directories scan plain inside
  | files =>
      have rowless : scan.columns.fileRow? [] = none := by
        simp [Columns.fileRow?, nothing]
      have untitled : Text.startsWith "Entry" (Text.trimStart []) = false := rfl
      rw [step_files scan plain inside, fileRow, untitled, if_neg Bool.false_ne_true, rowless]

theorem directoryRow_eq (row : Text) :
    ∃ directories, scan.directoryRow row = { scan with directories } := by
  rw [directoryRow]
  split
  · split
    · exact ⟨_, rfl⟩
    · exact ⟨scan.directories, rfl⟩
  · exact ⟨scan.directories, rfl⟩

theorem fileRow_eq (row : Text) :
    ∃ columns files, scan.fileRow row = { scan with columns, files } := by
  rw [fileRow]
  split
  · exact ⟨_, scan.files, rfl⟩
  · cases scan.columns.fileRow? row with
    | none => exact ⟨scan.columns, scan.files, rfl⟩
    | some file =>
        simp only
        cases scan.directories.lookup file.directory with
        | none => exact ⟨scan.columns, scan.files, rfl⟩
        | some directory => exact ⟨scan.columns, _, rfl⟩

/-- A marker opens its region, and no other line does. -/
def regionBehind (line : Text) : Region :=
  ((Marker.ofLine? line).map Marker.region).getD scan.region

/-- All that a line can do: start a program, change the region at most, or be a row of a table. -/
theorem step_cases (line : Text) :
    (∃ token, Marker.ofLine? line = some (.unit token) ∧
        scan.step line = { table := scan.finish, unit := some (UnitName.parse token) }) ∨
      ((∀ token, Marker.ofLine? line ≠ some (.unit token)) ∧
        (Marker.ofLine? line = none → scan.region = .outside) ∧
          scan.step line = { scan with region := scan.regionBehind line }) ∨
      (Marker.ofLine? line = none ∧ scan.region = .directories ∧
        scan.step line = scan.directoryRow line) ∨
      (Marker.ofLine? line = none ∧ scan.region = .files ∧
        scan.step line = scan.fileRow line) := by
  cases found : Marker.ofLine? line with
  | some marker =>
      by_cases header : ∃ token, marker = .unit token
      · obtain ⟨token, rfl⟩ := header
        exact Or.inl ⟨token, rfl, step_of_header scan found⟩
      · have title : marker.IsTitle := not_exists.mp header
        have inside : ∀ token, some marker ≠ some (.unit token) := fun token same =>
          title token (Option.some.inj same)
        have marked : some marker = none → scan.region = .outside := fun same =>
          absurd same (Option.some_ne_none marker)
        refine Or.inr (Or.inl ⟨inside, marked, ?_⟩)
        rw [step_of_title scan found title, regionBehind, found]
        rfl
  | none =>
      have inside : ∀ token, none ≠ some (Marker.unit token) := fun token =>
        (Option.some_ne_none (Marker.unit token)).symm
      cases current : scan.region with
      | outside =>
          refine Or.inr (Or.inl ⟨inside, fun _ => rfl, ?_⟩)
          rw [step_outside scan found current, regionBehind, found]
          rfl
      | directories =>
          exact Or.inr (Or.inr (Or.inl ⟨rfl, rfl, step_directories scan found current⟩))
      | files => exact Or.inr (Or.inr (Or.inr ⟨rfl, rfl, step_files scan found current⟩))

/-- Only a header starts a program and finishes the one before. -/
theorem step_unit_table (inside : ∀ token, Marker.ofLine? line ≠ some (.unit token)) :
    (scan.step line).unit = scan.unit ∧ (scan.step line).table = scan.table := by
  rcases step_cases scan line with ⟨token, header, _⟩ | ⟨_, _, same⟩ | ⟨_, _, same⟩ |
    ⟨_, _, same⟩
  · exact absurd header (inside token)
  · rw [same]
    exact ⟨rfl, rfl⟩
  · obtain ⟨directories, row⟩ := directoryRow_eq scan line
    rw [same, row]
    exact ⟨rfl, rfl⟩
  · obtain ⟨columns, files, row⟩ := fileRow_eq scan line
    rw [same, row]
    exact ⟨rfl, rfl⟩

theorem foldl_unit_table {lines : List Text}
    (inside : ∀ line ∈ lines, ∀ token, Marker.ofLine? line ≠ some (.unit token)) :
    (lines.foldl step scan).unit = scan.unit ∧ (lines.foldl step scan).table = scan.table := by
  induction lines generalizing scan with
  | nil => exact ⟨rfl, rfl⟩
  | cons line lines ih =>
      have ⟨unit, table⟩ := step_unit_table scan (inside line List.mem_cons_self)
      have later := ih (scan.step line) fun other member =>
        inside other (List.mem_cons_of_mem line member)
      rw [List.foldl_cons, later.1, later.2]
      exact ⟨unit, table⟩

end Step

theorem lookup_directoryRow (row : Text) (index : UInt64) (name : Text) :
    (scan.directoryRow row).directories.lookup index = some name ↔
      ListsDirectory row index name ∨
        (∀ other, ¬ ListsDirectory row index other) ∧
          scan.directories.lookup index = some name := by
  have unlisted (nothing : ∀ other, ¬ ListsDirectory row index other) :
      scan.directories.lookup index = some name ↔ ListsDirectory row index name ∨
        (∀ other, ¬ ListsDirectory row index other) ∧
          scan.directories.lookup index = some name := by
    simp [nothing]
  rw [directoryRow]
  split
  · next first field fields =>
      cases known : Numeral.parse? .decimal first with
      | none =>
          apply unlisted
          rintro other ⟨_, _, same, number, _⟩
          rw [fields] at same
          cases same
          rw [known] at number
          cases number
      | some number =>
          have listed : ∀ other, ListsDirectory row index other ↔
              index = number ∧ plainName field = other := by
            intro other
            constructor
            · rintro ⟨_, _, same, read, named⟩
              rw [fields] at same
              cases same
              rw [known] at read
              exact ⟨(Option.some.inj read).symm, plainName_eq_iff.mpr named⟩
            · rintro ⟨rfl, named⟩
              exact ⟨first, field, fields, known, plainName_eq_iff.mp named⟩
          simp only [lookup_cons_eq_some_iff, listed]
          by_cases same : index = number <;> simp [same]
  · next other =>
      apply unlisted
      rintro _ ⟨first, field, same, _⟩
      exact other first field same

theorem columns_fileRow (row : Text) (columns : Columns) :
    (scan.fileRow row).columns = columns ↔ TellsColumns row columns ∨
      (∀ other, ¬ TellsColumns row other) ∧ scan.columns = columns := by
  rw [fileRow]
  split_ifs with titled
  · simp only [← Columns.ofHeader?_eq_some_iff titled]
    cases Columns.ofHeader? row <;> simp
  · have untold : ∀ other, ¬ TellsColumns row other := fun other told => titled told.titled
    have kept : ∀ scan' : LineScan, scan'.columns = scan.columns → (scan'.columns = columns ↔
        TellsColumns row columns ∨
          (∀ other, ¬ TellsColumns row other) ∧ scan.columns = columns) := by
      intro scan' same
      simp [untold, same]
    cases scan.columns.fileRow? row with
    | none => exact kept scan rfl
    | some file =>
        simp only
        cases scan.directories.lookup file.directory with
        | none => exact kept scan rfl
        | some directory => exact kept _ rfl

/-- The row adds the path of a file of the current program. -/
def AddsFile (row : Text) (unit : UnitName) (index : UInt64) (path : Path) : Prop :=
  scan.unit = some unit ∧ ∃ directory field name,
    ListsFile scan.columns row index directory field ∧
      scan.directories.lookup directory = some name ∧ path = Path.join name (plainName field)

theorem addsFile_iff {row : Text} {file : FileRow} {directory : Text}
    (untitled : row.trimStart.startsWith "Entry" = false)
    (read : scan.columns.fileRow? row = some file)
    (listed : scan.directories.lookup file.directory = some directory) (unit : UnitName)
    (index : UInt64) (path : Path) :
    scan.AddsFile row unit index path ↔
      scan.unit = some unit ∧ index = file.index ∧ Path.join directory file.name = path := by
  obtain ⟨field, known, named⟩ := (Columns.fileRow?_eq_some_iff untitled).mp read
  constructor
  · rintro ⟨current, number, other, name, lists, found, rfl⟩
    have sameIndex := Option.some.inj (lists.index.symm.trans known.index)
    have sameDirectory := Option.some.inj (lists.directory.symm.trans known.directory)
    have sameField := Option.some.inj (lists.name.symm.trans known.name)
    rw [sameDirectory, listed] at found
    rw [sameField, named, Option.some.inj found]
    exact ⟨current, sameIndex, rfl⟩
  · rintro ⟨current, rfl, rfl⟩
    exact ⟨current, file.directory, field, directory, known, listed, by rw [named]⟩

theorem path?_finish_fileRow (row : Text) (unit : UnitName) (index : UInt64) (path : Path) :
    (scan.fileRow row).finish.path? unit index = some path ↔
      scan.AddsFile row unit index path ∨ (∀ other, ¬ scan.AddsFile row unit index other) ∧
        scan.finish.path? unit index = some path := by
  have unadded (nothing : ∀ other, ¬ scan.AddsFile row unit index other) :
      scan.finish.path? unit index = some path ↔ scan.AddsFile row unit index path ∨
        (∀ other, ¬ scan.AddsFile row unit index other) ∧
          scan.finish.path? unit index = some path := by
    simp [nothing]
  rw [fileRow]
  split_ifs with titled
  · apply unadded
    rintro other ⟨_, _, _, _, lists, _⟩
    rw [lists.untitled] at titled
    cases titled
  · have untitled := Bool.eq_false_iff.mpr titled
    cases read : scan.columns.fileRow? row with
    | none =>
        apply unadded
        rintro other ⟨_, directory, field, _, lists, _⟩
        have found : scan.columns.fileRow? row = some ⟨index, directory, plainName field⟩ :=
          (Columns.fileRow?_eq_some_iff untitled).mpr ⟨field, lists, rfl⟩
        rw [read] at found
        cases found
    | some file =>
        simp only
        cases listed : scan.directories.lookup file.directory with
        | none =>
            apply unadded
            rintro other ⟨_, directory, field, name, lists, found, _⟩
            obtain ⟨known, knownFile, _⟩ := (Columns.fileRow?_eq_some_iff untitled).mp read
            have same := Option.some.inj (lists.directory.symm.trans knownFile.directory)
            rw [same, listed] at found
            cases found
        | some directory =>
            simp only [addsFile_iff scan untitled read listed, path?_finish]
            by_cases current : scan.unit = some unit
            · by_cases same : index = file.index
              · simp [current, same]
              · have unequal : (index == file.index) = false := by simpa using same
                simp [current, same, unequal, List.lookup_cons]
            · simp [current]

/-- The line is a row of a table that the scan is in. -/
def Reads (region : Region) (line : Text) : Prop :=
  Marker.ofLine? line = none ∧ scan.region = region

section Reads

variable {scan} {line : Text}

theorem not_reads_of_idle {region : Region} (table : region ≠ .outside)
    (idle : Marker.ofLine? line = none → scan.region = .outside) : ¬ scan.Reads region line :=
  fun reads => table (reads.2.symm.trans (idle reads.1))

theorem not_reads_of_ne {region other : Region} (differ : other ≠ region)
    (current : scan.region = other) : ¬ scan.Reads region line :=
  fun reads => differ (current.symm.trans reads.2)

end Reads

variable {line : Text}

theorem columns_step (inside : ∀ token, Marker.ofLine? line ≠ some (.unit token))
    (columns : Columns) :
    (scan.step line).columns = columns ↔ scan.Reads .files line ∧ TellsColumns line columns ∨
      (∀ other, ¬ (scan.Reads .files line ∧ TellsColumns line other)) ∧
        scan.columns = columns := by
  rcases step_cases scan line with ⟨token, header, _⟩ | ⟨_, idle, same⟩ |
    ⟨_, current, same⟩ | ⟨plain, current, same⟩
  · exact absurd header (inside token)
  · have idleFiles : ¬ scan.Reads .files line := not_reads_of_idle (by decide) idle
    rw [same]
    simp [idleFiles]
  · have idleFiles : ¬ scan.Reads .files line := not_reads_of_ne (by decide) current
    obtain ⟨directories, row⟩ := directoryRow_eq scan line
    rw [same, row]
    simp [idleFiles]
  · have reads : scan.Reads .files line := ⟨plain, current⟩
    simp only [same, reads, true_and, columns_fileRow]

theorem lookup_step (inside : ∀ token, Marker.ofLine? line ≠ some (.unit token)) (index : UInt64)
    (name : Text) :
    (scan.step line).directories.lookup index = some name ↔
      scan.Reads .directories line ∧ ListsDirectory line index name ∨
        (∀ other, ¬ (scan.Reads .directories line ∧ ListsDirectory line index other)) ∧
          scan.directories.lookup index = some name := by
  rcases step_cases scan line with ⟨token, header, _⟩ | ⟨_, idle, same⟩ |
    ⟨plain, current, same⟩ | ⟨_, current, same⟩
  · exact absurd header (inside token)
  · have idleDirectories : ¬ scan.Reads .directories line := not_reads_of_idle (by decide) idle
    rw [same]
    simp [idleDirectories]
  · have reads : scan.Reads .directories line := ⟨plain, current⟩
    simp only [same, reads, true_and, lookup_directoryRow]
  · have idleDirectories : ¬ scan.Reads .directories line := not_reads_of_ne (by decide) current
    obtain ⟨columns, files, row⟩ := fileRow_eq scan line
    rw [same, row]
    simp [idleDirectories]

theorem path?_finish_step (unit : UnitName) (index : UInt64) (path : Path) :
    (scan.step line).finish.path? unit index = some path ↔
      scan.Reads .files line ∧ scan.AddsFile line unit index path ∨
        (∀ other, ¬ (scan.Reads .files line ∧ scan.AddsFile line unit index other)) ∧
          scan.finish.path? unit index = some path := by
  rcases step_cases scan line with ⟨token, header, same⟩ | ⟨_, idle, same⟩ |
    ⟨_, current, same⟩ | ⟨plain, current, same⟩
  · have idleFiles : ¬ scan.Reads .files line := by
      rintro ⟨plain, _⟩
      rw [header] at plain
      cases plain
    have kept : (scan.step line).finish.path? unit index = scan.finish.path? unit index := by
      rw [same, path?_finish]
      split <;> rfl
    simp [kept, idleFiles]
  · have idleFiles : ¬ scan.Reads .files line := not_reads_of_idle (by decide) idle
    have kept : (scan.step line).finish = scan.finish := by
      rw [same]
      rfl
    simp [kept, idleFiles]
  · have idleFiles : ¬ scan.Reads .files line := not_reads_of_ne (by decide) current
    obtain ⟨directories, row⟩ := directoryRow_eq scan line
    have kept : (scan.step line).finish = scan.finish := by
      rw [same, row]
      rfl
    simp [kept, idleFiles]
  · have reads : scan.Reads .files line := ⟨plain, current⟩
    simp only [same, reads, true_and, path?_finish_fileRow]

/-- Whatever titles are read, they leave the columns in their order. -/
theorem columns_ordered_step (ordered : scan.columns.Ordered) (line : Text) :
    (scan.step line).columns.Ordered := by
  by_cases header : ∃ token, Marker.ofLine? line = some (.unit token)
  · obtain ⟨token, header⟩ := header
    rw [step_of_header scan header]
    exact Columns.ordered_default
  · rcases (columns_step scan (not_exists.mp header) _).mp rfl with ⟨_, tells⟩ | ⟨_, kept⟩
    · exact tells.columns_ordered
    · rw [← kept]
      exact ordered

theorem columns_ordered_foldl (ordered : scan.columns.Ordered) (lines : List Text) :
    (lines.foldl step scan).columns.Ordered := by
  induction lines generalizing scan with
  | nil => exact ordered
  | cons line lines ih => exact ih _ (columns_ordered_step scan ordered line)

theorem region_step : (scan.step line).region = scan.regionBehind line := by
  rcases step_cases scan line with ⟨token, header, same⟩ | ⟨_, _, same⟩ | ⟨plain, _, same⟩ |
    ⟨plain, _, same⟩
  · rw [same, regionBehind, header]
    rfl
  · rw [same]
  · obtain ⟨directories, row⟩ := directoryRow_eq scan line
    rw [same, row, regionBehind, plain]
    rfl
  · obtain ⟨columns, files, row⟩ := fileRow_eq scan line
    rw [same, row, regionBehind, plain]
    rfl

end LineScan

end LiveRange
