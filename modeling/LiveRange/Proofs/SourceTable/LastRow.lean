import LiveRange.Proofs.Told
import LiveRange.Proofs.SourceTable.Scan

/-! The path of a file told from the lines of a dump, whatever they hold: the last row that lists
the file decides, read with the columns and the directories that its program has told by then. -/

namespace LiveRange

section Lines

variable (lines : List Text)

def MarkerAt (k : Nat) (marker : Marker) : Prop :=
  ∃ line, lines[k]? = some line ∧ marker.Marks line

def UnitAt (k : Nat) (unit : UnitName) : Prop :=
  ∃ token, MarkerAt lines k (.unit token) ∧ UnitName.parse token = unit

/-- A line that is no marker, in the table that the last marker before it opens. -/
structure RowAt (table : Marker) (k : Nat) (row : Text) : Prop where
  here : lines[k]? = some row
  plain : ∀ marker : Marker, ¬ marker.Marks row
  below : ∃ opening, LastTold 0 k (MarkerAt lines) opening table

def ColumnsAt (k : Nat) (columns : Columns) : Prop :=
  ∃ row, RowAt lines .files k row ∧ TellsColumns row columns

def DirectoryAt (index : UInt64) (k : Nat) (name : Text) : Prop :=
  ∃ row, RowAt lines .directories k row ∧ ListsDirectory row index name

/-- The columns that the last row of titles tells, or else those of the older layout. -/
def ColumnsIn (start stop : Nat) (columns : Columns) : Prop :=
  (∃ k, LastTold start stop (ColumnsAt lines) k columns) ∨
    (∀ k < stop, start ≤ k → ∀ other, ¬ ColumnsAt lines k other) ∧
      columns = { dir := 1, name := 4 }

/-- A row of a file at `r`, in the program with its header at `h`, and the row of its directory
between the two. -/
def FileAt (unit : UnitName) (index : UInt64) (r : Nat) (path : Path) : Prop :=
  ∃ row h columns directory field above name shown, RowAt lines .files r row ∧
    LastTold 0 r (UnitAt lines) h unit ∧ ColumnsIn lines (h + 1) r columns ∧
    ListsFile columns row index directory field ∧
    LastTold (h + 1) r (DirectoryAt lines directory) above name ∧
    NameIn field shown ∧ path = Path.join name shown

def scanAt (k : Nat) : LineScan := (lines.take k).foldl LineScan.step {}

end Lines

variable {lines : List Text} {k : Nat} {line : Text}

theorem scanAt_succ (here : lines[k]? = some line) :
    scanAt lines (k + 1) = (scanAt lines k).step line := by
  rw [scanAt, List.take_add_one, here, Option.toList_some, List.foldl_append, List.foldl_cons,
    List.foldl_nil, scanAt]

theorem exists_line (short : k < lines.length) : ∃ line, lines[k]? = some line :=
  ⟨lines[k], List.getElem?_eq_getElem short⟩

section Told

variable {β : Type} (holds : LineScan → β → Prop) (tells : Nat → β → Prop) {start stop : Nat}

/-- What a scan holds is what the last line that tells it tells, once every single line is known to
change it so. -/
theorem holds_scanAt_iff (short : stop ≤ lines.length) (ordered : start ≤ stop)
    (each : ∀ k < stop, start ≤ k → ∀ line, lines[k]? = some line → ∀ value,
      holds ((scanAt lines k).step line) value ↔
        tells k value ∨ (∀ other, ¬ tells k other) ∧ holds (scanAt lines k) value) (value : β) :
    holds (scanAt lines stop) value ↔ (∃ k, LastTold start stop tells k value) ∨
      (∀ k < stop, start ≤ k → ∀ other, ¬ tells k other) ∧ holds (scanAt lines start) value := by
  refine LastTold.holds_iff (fun k => holds (scanAt lines k)) tells ordered ?_ value
  intro k before behind
  obtain ⟨line, here⟩ := exists_line (lt_of_lt_of_le before short)
  rw [scanAt_succ here]
  exact each k before behind line here

theorem holds_scanAt_iff_of_fresh (short : stop ≤ lines.length) (ordered : start ≤ stop)
    (each : ∀ k < stop, start ≤ k → ∀ line, lines[k]? = some line → ∀ value,
      holds ((scanAt lines k).step line) value ↔
        tells k value ∨ (∀ other, ¬ tells k other) ∧ holds (scanAt lines k) value) {value : β}
    (fresh : ¬ holds (scanAt lines start) value) :
    holds (scanAt lines stop) value ↔ ∃ k, LastTold start stop tells k value := by
  rw [holds_scanAt_iff holds tells short ordered each]
  simp only [fresh, and_false, or_false]

end Told

theorem markerAt_iff (here : lines[k]? = some line) (marker : Marker) :
    MarkerAt lines k marker ↔ Marker.ofLine? line = some marker := by
  simp [MarkerAt, here, Marker.ofLine?_eq_some_iff]

theorem unitAt_iff (here : lines[k]? = some line) (unit : UnitName) :
    UnitAt lines k unit ↔
      ∃ token, Marker.ofLine? line = some (.unit token) ∧ UnitName.parse token = unit := by
  simp only [UnitAt, markerAt_iff here]

/-- The region is that of the last marker. -/
theorem region_scanAt_iff (short : k ≤ lines.length) {table : Marker}
    (only : ∀ marker : Marker, marker.region = table.region ↔ marker = table)
    (inside : table.region ≠ .outside) :
    (scanAt lines k).region = table.region ↔
      ∃ opening, LastTold 0 k (MarkerAt lines) opening table := by
  have told := holds_scanAt_iff_of_fresh (fun scan region => scan.region = region)
    (fun j region => ∃ marker, MarkerAt lines j marker ∧ marker.region = region) short
    (Nat.zero_le k) ?_ inside.symm
  · rw [told]
    simp only [LastTold.map_iff only]
  · intro j _ _ line here region
    simp only [LineScan.region_step, LineScan.regionBehind, markerAt_iff here]
    cases Marker.ofLine? line <;> simp

theorem unit_scanAt_iff (short : k ≤ lines.length) (unit : UnitName) :
    (scanAt lines k).unit = some unit ↔ ∃ h, LastTold 0 k (UnitAt lines) h unit := by
  refine holds_scanAt_iff_of_fresh (fun scan unit => scan.unit = some unit) (UnitAt lines) short
    (Nat.zero_le k) ?_ (Option.some_ne_none unit).symm
  intro j _ _ line here unit
  simp only [unitAt_iff here]
  by_cases inside : ∀ token, Marker.ofLine? line ≠ some (.unit token)
  · rw [(LineScan.step_unit_table _ inside).1]
    simp [inside]
  · obtain ⟨token, header⟩ := not_forall_not.mp inside
    rw [LineScan.step_of_header _ header, header]
    simp

theorem rowAt_iff (here : lines[k]? = some line) {table : Marker}
    (only : ∀ marker : Marker, marker.region = table.region ↔ marker = table)
    (inside : table.region ≠ .outside) (row : Text) :
    RowAt lines table k row ↔ row = line ∧ (scanAt lines k).Reads table.region line := by
  have short : k ≤ lines.length := (List.getElem?_eq_some_iff.mp here).1.le
  have region := region_scanAt_iff short only inside
  constructor
  · rintro ⟨same, plain, below⟩
    cases here.symm.trans same
    exact ⟨rfl, Marker.ofLine?_eq_none_iff_marks.mpr plain, region.mpr below⟩
  · rintro ⟨rfl, plain, current⟩
    exact ⟨here, Marker.ofLine?_eq_none_iff_marks.mp plain, region.mp current⟩

theorem fileRowAt_iff (here : lines[k]? = some line) (row : Text) :
    RowAt lines .files k row ↔ row = line ∧ (scanAt lines k).Reads .files line :=
  rowAt_iff here (by rintro (_ | _) <;> simp [Marker.region]) (by decide) row

theorem directoryRowAt_iff (here : lines[k]? = some line) (row : Text) :
    RowAt lines .directories k row ↔ row = line ∧ (scanAt lines k).Reads .directories line :=
  rowAt_iff here (by rintro (_ | _) <;> simp [Marker.region]) (by decide) row

theorem columnsAt_iff (here : lines[k]? = some line) (columns : Columns) :
    ColumnsAt lines k columns ↔
      (scanAt lines k).Reads .files line ∧ TellsColumns line columns := by
  simp only [ColumnsAt, fileRowAt_iff here, and_assoc, exists_eq_left]

theorem directoryAt_iff (here : lines[k]? = some line) (index : UInt64) (name : Text) :
    DirectoryAt lines index k name ↔
      (scanAt lines k).Reads .directories line ∧ ListsDirectory line index name := by
  simp only [DirectoryAt, directoryRowAt_iff here, and_assoc, exists_eq_left]

section Program

variable {h r : Nat} {unit : UnitName}

/-- Behind its header a program has told nothing. -/
theorem scanAt_of_header (header : UnitAt lines h unit) :
    ∃ table, scanAt lines (h + 1) = { table, unit := some unit } := by
  obtain ⟨token, ⟨line, here, marks⟩, rfl⟩ := header
  rw [scanAt_succ here, LineScan.step_of_header _ (Marker.ofLine?_eq_some_iff.mpr marks)]
  exact ⟨_, rfl⟩

theorem not_header (last : LastTold 0 r (UnitAt lines) h unit) (before : k < r)
    (behind : h + 1 ≤ k) (here : lines[k]? = some line) (token : Text) :
    Marker.ofLine? line ≠ some (.unit token) := by
  intro header
  exact last.silent k before behind _ ((unitAt_iff here _).mpr ⟨token, header, rfl⟩)

theorem columns_scanAt_iff (short : r ≤ lines.length) (last : LastTold 0 r (UnitAt lines) h unit)
    (columns : Columns) :
    (scanAt lines r).columns = columns ↔ ColumnsIn lines (h + 1) r columns := by
  have told := holds_scanAt_iff (fun scan columns => scan.columns = columns) (ColumnsAt lines)
    short (Nat.succ_le_of_lt last.before) ?_ columns
  · obtain ⟨table, fresh⟩ := scanAt_of_header last.told
    rw [told, fresh, ColumnsIn]
    simp only [eq_comm]
  · intro j before behind line here columns
    simp only [columnsAt_iff here]
    exact LineScan.columns_step _ (not_header last before behind here) columns

theorem lookup_scanAt_iff (short : r ≤ lines.length) (last : LastTold 0 r (UnitAt lines) h unit)
    (index : UInt64) (name : Text) :
    (scanAt lines r).directories.lookup index = some name ↔
      ∃ above, LastTold (h + 1) r (DirectoryAt lines index) above name := by
  have unlisted : (scanAt lines (h + 1)).directories.lookup index ≠ some name := by
    obtain ⟨table, fresh⟩ := scanAt_of_header last.told
    rw [fresh]
    exact (Option.some_ne_none name).symm
  refine holds_scanAt_iff_of_fresh (fun scan name => scan.directories.lookup index = some name)
    (DirectoryAt lines index) short (Nat.succ_le_of_lt last.before) ?_ unlisted
  intro j before behind line here name
  simp only [directoryAt_iff here]
  exact LineScan.lookup_step _ (not_header last before behind here) index name

theorem fileAt_iff (here : lines[k]? = some line) (unit : UnitName) (index : UInt64)
    (path : Path) :
    FileAt lines unit index k path ↔
      (scanAt lines k).Reads .files line ∧ (scanAt lines k).AddsFile line unit index path := by
  have short : k ≤ lines.length := (List.getElem?_eq_some_iff.mp here).1.le
  constructor
  · rintro ⟨row, h, columns, directory, field, above, name, shown, stands, header, told, lists,
      listed, named, rfl⟩
    obtain ⟨rfl, reads⟩ := (fileRowAt_iff here row).mp stands
    have current := (unit_scanAt_iff short unit).mpr ⟨h, header⟩
    have sameColumns := (columns_scanAt_iff short header columns).mpr told
    have found := (lookup_scanAt_iff short header directory name).mpr ⟨above, listed⟩
    rw [← sameColumns] at lists
    rw [← plainName_eq_iff.mpr named]
    exact ⟨reads, current, directory, field, name, lists, found, rfl⟩
  · rintro ⟨reads, current, directory, field, name, lists, found, rfl⟩
    obtain ⟨h, header⟩ := (unit_scanAt_iff short unit).mp current
    obtain ⟨above, listed⟩ := (lookup_scanAt_iff short header directory name).mp found
    exact ⟨line, h, _, directory, field, above, name, _, (fileRowAt_iff here line).mpr ⟨rfl, reads⟩,
      header, (columns_scanAt_iff short header _).mp rfl, lists, listed,
      plainName_eq_iff.mp rfl, rfl⟩

end Program

namespace SourceTable

/-- The table resolves a file exactly when some row of the dump lists it, and then to the path of
the last such row. -/
theorem path?_ofLineDump_eq_some_iff (dump : Text) (unit : UnitName) (index : UInt64)
    (path : Path) :
    (ofLineDump dump).path? unit index = some path ↔
      ∃ r, LastTold 0 dump.lines.length (FileAt dump.lines unit index) r path := by
  have whole : scanAt dump.lines dump.lines.length = dump.lines.foldl LineScan.step {} := by
    rw [scanAt, List.take_length]
  rw [ofLineDump, ← whole]
  refine holds_scanAt_iff_of_fresh (fun scan path => scan.finish.path? unit index = some path)
    (FileAt dump.lines unit index) (le_refl _) (Nat.zero_le _) ?_ (Option.some_ne_none path).symm
  intro j _ _ line here path
  simp only [fileAt_iff here]
  exact LineScan.path?_finish_step _ unit index path

end SourceTable

end LiveRange
