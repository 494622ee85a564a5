import LiveRange.Proofs.SourceTable.Scan
import LiveRange.Proofs.Text.Lines

/-! A dump that starts with the header of a program is read the same behind any other dump: its
files replace those of the dump before it key by key, and nothing else passes over the header. -/

namespace LiveRange

namespace LineScan

def withTable (table : SourceTable) (scan : LineScan) : LineScan := { scan with table }

/-- A table is that of the scan, and for the keys which the scan leaves open the one below. -/
def Over (below : SourceTable) (scan : LineScan) (table : SourceTable) : Prop :=
  ∀ unit index,
    table.path? unit index = (scan.table.path? unit index).or (below.path? unit index)

variable {below table : SourceTable} (scan : LineScan)

theorem directoryRow_withTable (line : Text) :
    (scan.withTable table).directoryRow line = (scan.directoryRow line).withTable table := by
  simp only [directoryRow]
  split
  · split <;> rfl
  · rfl

theorem fileRow_withTable (line : Text) :
    (scan.withTable table).fileRow line = (scan.fileRow line).withTable table := by
  simp only [fileRow]
  split
  · rfl
  · simp only [withTable]
    cases scan.columns.fileRow? line with
    | none => rfl
    | some row =>
        simp only
        cases scan.directories.lookup row.directory <;> rfl

/-- Only a header touches the table. -/
theorem step_withTable {line : Text} (inside : ∀ token, Marker.ofLine? line ≠ some (.unit token)) :
    (scan.withTable table).step line = (scan.step line).withTable table := by
  cases found : Marker.ofLine? line with
  | some marker =>
      have title : marker.IsTitle := by
        rintro token rfl
        exact inside token found
      rw [step_of_title _ found title, step_of_title _ found title]
      rfl
  | none =>
      cases current : scan.region with
      | outside => rw [step_outside scan found current,
          step_outside (scan.withTable table) found current]
      | directories =>
          rw [step_directories scan found current,
            step_directories (scan.withTable table) found current, directoryRow_withTable]
      | files =>
          rw [step_files scan found current, step_files (scan.withTable table) found current,
            fileRow_withTable]

theorem finish_withTable (covers : Over below scan table) (unit : UnitName) (index : UInt64) :
    (scan.withTable table).finish.path? unit index =
      (scan.finish.path? unit index).or (below.path? unit index) := by
  rw [path?_finish, path?_finish]
  simp only [withTable, covers unit index]
  split
  · rw [Option.or_assoc]
  · rfl

/-- Whatever lines are read, the keys that they leave are those below. -/
theorem finish_foldl_withTable (lines : List Text) (covers : Over below scan table)
    (unit : UnitName) (index : UInt64) :
    (lines.foldl step (scan.withTable table)).finish.path? unit index =
      ((lines.foldl step scan).finish.path? unit index).or (below.path? unit index) := by
  induction lines generalizing scan table with
  | nil => exact finish_withTable scan covers unit index
  | cons line lines ih =>
      rw [List.foldl_cons, List.foldl_cons]
      by_cases inside : ∀ token, Marker.ofLine? line ≠ some (.unit token)
      · have overStep : Over below (scan.step line) table := by
          rw [Over, (step_unit_table scan inside).2]
          exact covers
        rw [step_withTable scan inside, ih (scan.step line) overStep]
      · obtain ⟨token, header⟩ := not_forall_not.mp inside
        rw [step_of_header scan header, step_of_header _ header]
        exact ih { table := scan.finish, unit := some (UnitName.parse token) }
          (finish_withTable scan covers)

end LineScan

namespace SourceTable

/-- The first line is the header of a program. -/
def StartsProgram (dump token : Text) : Prop :=
  dump.lines.head?.bind Marker.unitToken? = some token

instance (dump token : Text) : Decidable (StartsProgram dump token) :=
  inferInstanceAs (Decidable (dump.lines.head?.bind Marker.unitToken? = some token))

/-- One program of a dump: its header, and rows among which there is no other. -/
structure ProgramText where
  text : Text
  token : Text
  ended : text.Ended
  starts : StartsProgram text token
  alone : ∀ row ∈ text.lines.tail, Marker.unitToken? row = none

def ProgramText.unit (program : ProgramText) : UnitName := UnitName.parse program.token

/-- What stands before a program in a dump leaves nothing but the finished table. -/
theorem foldl_of_startsProgram {dump token : Text} (starts : StartsProgram dump token)
    (scan : LineScan) :
    dump.lines.foldl LineScan.step scan = dump.lines.tail.foldl LineScan.step
      { table := scan.finish, unit := some (UnitName.parse token) } := by
  obtain ⟨header, first, token⟩ := Option.bind_eq_some_iff.mp starts
  obtain ⟨rows, layout⟩ : ∃ rows, dump.lines = header :: rows := List.head?_eq_some_iff.mp first
  have opening := Marker.ofLine?_eq_unit_iff.mpr token
  rw [layout, List.foldl_cons, LineScan.step_of_header scan opening, List.tail_cons]

theorem path?_append {front rest token : Text} (ended : front.Ended)
    (starts : StartsProgram rest token) (unit : UnitName) (index : UInt64) :
    (ofLineDump (front ++ rest)).path? unit index =
      ((ofLineDump rest).path? unit index).or ((ofLineDump front).path? unit index) := by
  let fresh : LineScan := { unit := some (UnitName.parse token) }
  have alone : ofLineDump rest = (rest.lines.tail.foldl LineScan.step fresh).finish :=
    congrArg LineScan.finish (foldl_of_startsProgram starts {})
  have behind : ofLineDump (front ++ rest) =
      (rest.lines.tail.foldl LineScan.step (fresh.withTable (ofLineDump front))).finish := by
    rw [ofLineDump, Text.lines_append ended, List.foldl_append, foldl_of_startsProgram starts]
    rfl
  have covers : LineScan.Over (ofLineDump front) fresh (ofLineDump front) := fun _ _ => rfl
  rw [behind, alone, LineScan.finish_foldl_withTable fresh rest.lines.tail covers]

/-- A program has files of its own unit only. -/
theorem path?_of_unit_ne (program : ProgramText) {unit : UnitName} (differ : program.unit ≠ unit)
    (index : UInt64) : (ofLineDump program.text).path? unit index = none := by
  let fresh : LineScan := { unit := some (UnitName.parse program.token) }
  have inside : ∀ row ∈ program.text.lines.tail, ∀ token,
      Marker.ofLine? row ≠ some (.unit token) := by
    intro row member token header
    rw [Marker.ofLine?_eq_unit_iff, program.alone row member] at header
    cases header
  have ⟨unitKept, tableKept⟩ := LineScan.foldl_unit_table fresh inside
  have other : (program.text.lines.tail.foldl LineScan.step fresh).unit ≠ some unit := by
    rw [unitKept]
    exact fun same => differ (Option.some.inj same)
  have alone : ofLineDump program.text =
      (program.text.lines.tail.foldl LineScan.step fresh).finish :=
    congrArg LineScan.finish (foldl_of_startsProgram program.starts {})
  rw [alone, LineScan.path?_finish, if_neg other, tableKept]
  rfl

theorem ended_flatMap_text (programs : List ProgramText) :
    Text.Ended (programs.flatMap ProgramText.text) := by
  induction programs with
  | nil => exact Or.inl rfl
  | cons program programs ih =>
      rw [List.flatMap_cons]
      exact program.ended.append ih

/-- Programs of other units have no part in a path. -/
theorem path?_append_others {front : Text} (ended : front.Ended) {programs : List ProgramText}
    {unit : UnitName} (others : ∀ program ∈ programs, program.unit ≠ unit) (index : UInt64) :
    (ofLineDump (front ++ programs.flatMap ProgramText.text)).path? unit index =
      (ofLineDump front).path? unit index := by
  induction programs generalizing front with
  | nil => rw [List.flatMap_nil, List.append_nil]
  | cons program programs ih =>
      have later := ih (ended.append program.ended) fun other member =>
        others other (List.mem_cons_of_mem program member)
      rw [List.flatMap_cons, ← List.append_assoc, later, path?_append ended program.starts,
        path?_of_unit_ne program (others program List.mem_cons_self), Option.none_or]

theorem path?_append_member {front : Text} (ended : front.Ended) {programs : List ProgramText}
    (distinct : (programs.map ProgramText.unit).Nodup) {program : ProgramText}
    (member : program ∈ programs) (index : UInt64) :
    (ofLineDump (front ++ programs.flatMap ProgramText.text)).path? program.unit index =
      ((ofLineDump program.text).path? program.unit index).or
        ((ofLineDump front).path? program.unit index) := by
  obtain ⟨before, after, rfl⟩ := List.append_of_mem member
  rw [List.map_append, List.map_cons, List.nodup_append] at distinct
  obtain ⟨_, behind, apart⟩ := distinct
  have earlier : ∀ other ∈ before, other.unit ≠ program.unit := fun other present =>
    apart other.unit (List.mem_map_of_mem present) program.unit List.mem_cons_self
  have later : ∀ other ∈ after, other.unit ≠ program.unit := fun other present same =>
    (List.nodup_cons.mp behind).1 (List.mem_map.mpr ⟨other, present, same⟩)
  have endedBefore := ended.append (ended_flatMap_text before)
  rw [List.flatMap_append, List.flatMap_cons, ← List.append_assoc, ← List.append_assoc,
    path?_append_others (endedBefore.append program.ended) later,
    path?_append endedBefore program.starts, path?_append_others ended earlier]

/-- A dump that starts with the header of a program overrides, key by key, the dump before it. So
programs of distinct units may stand in any order. -/
theorem path?_append_and_perm :
    (∀ front rest token : Text, front.Ended → StartsProgram rest token → ∀ unit index,
        (ofLineDump (front ++ rest)).path? unit index =
          ((ofLineDump rest).path? unit index).or ((ofLineDump front).path? unit index)) ∧
      ∀ (front : Text) (programs others : List ProgramText), front.Ended →
        programs.Perm others → (programs.map ProgramText.unit).Nodup → ∀ unit index,
          (ofLineDump (front ++ programs.flatMap ProgramText.text)).path? unit index =
            (ofLineDump (front ++ others.flatMap ProgramText.text)).path? unit index := by
  refine ⟨fun front rest token ended starts => path?_append ended starts, ?_⟩
  intro front programs others ended perm distinct unit index
  by_cases known : ∃ program ∈ programs, program.unit = unit
  · obtain ⟨program, member, rfl⟩ := known
    have distinctOthers := (perm.map ProgramText.unit).nodup_iff.mp distinct
    rw [path?_append_member ended distinct member,
      path?_append_member ended distinctOthers (perm.mem_iff.mp member)]
  · have absent : ∀ program ∈ programs, program.unit ≠ unit := fun program member same =>
      known ⟨program, member, same⟩
    have absentOthers : ∀ program ∈ others, program.unit ≠ unit := fun program member =>
      absent program (perm.mem_iff.mpr member)
    rw [path?_append_others ended absent, path?_append_others ended absentOthers]

/-- The dump breaks off in a table of files, with columns of its own. -/
def unfinishedDump : Text := Text.unlines
  ["Offset: 0".toList, " The Directory Table".toList, "1 /old".toList, "2 /kept".toList,
    " The File Name Table".toList, "Entry Dir Name".toList, "1 1 a.c".toList, "3 2 c.c".toList]

def laterProgram : ProgramText where
  text := Text.unlines ["  Offset: 0x0".toList, "4 2 lost.c".toList, " The Directory Table".toList,
    "1 /new".toList, " The File Name Table".toList, "1 1 0 0 b.c".toList, "5 2 0 0 d.c".toList]
  token := "0x0".toList
  ended := by decide
  starts := by decide +kernel
  alone := by decide +kernel

def otherProgram : ProgramText where
  text := Text.unlines ["Offset: first".toList, "The Directory Table".toList, "1 /other".toList,
    "The File Name Table".toList, "1 1 0 0 e.c".toList]
  token := "first".toList
  ended := by decide
  starts := by decide +kernel
  alone := by decide +kernel

theorem path?_append_and_perm_unfinishedDump :
    (unfinishedDump.Ended ∧ StartsProgram laterProgram.text laterProgram.token ∧
        ∀ unit index, (ofLineDump (unfinishedDump ++ laterProgram.text)).path? unit index =
          ((ofLineDump laterProgram.text).path? unit index).or
            ((ofLineDump unfinishedDump).path? unit index)) ∧
      ([laterProgram, otherProgram].Perm [otherProgram, laterProgram] ∧
        ([laterProgram, otherProgram].map ProgramText.unit).Nodup ∧ ∀ unit index,
          (ofLineDump (unfinishedDump ++
              [laterProgram, otherProgram].flatMap ProgramText.text)).path? unit index =
            (ofLineDump (unfinishedDump ++
              [otherProgram, laterProgram].flatMap ProgramText.text)).path? unit index) := by
  have ended : unfinishedDump.Ended := by decide
  have perm := List.Perm.swap otherProgram laterProgram []
  have distinct : ([laterProgram, otherProgram].map ProgramText.unit).Nodup := by decide +kernel
  exact ⟨⟨ended, laterProgram.starts,
      path?_append_and_perm.1 unfinishedDump laterProgram.text laterProgram.token ended
        laterProgram.starts⟩,
    perm, distinct, path?_append_and_perm.2 unfinishedDump _ _ ended perm distinct⟩

end SourceTable

end LiveRange
