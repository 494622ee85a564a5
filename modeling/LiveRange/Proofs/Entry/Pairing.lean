import LiveRange.Proofs.Entry.Printed
import LiveRange.Proofs.Entry.Scan

/-! Which declaration file a scan combines with which declaration line. The file is kept over entry
headers, so the two are of one entry only if no entry leaves its file to a later one. -/

namespace LiveRange

/-- A declaration file and, behind it, a declaration line. -/
structure FilePair (lines : List InfoLine) (index line : UInt64) where
  before : List InfoLine
  file : Text
  between : List InfoLine
  number : Text
  after : List InfoLine
  layout : lines = before ++ .tracked .declFile file ::
    (between ++ .tracked .declLine number :: after)
  index_file : firstNumber? file = some index
  line_number : firstNumber? number = some line

/-- The file and the line stand in the same entry. -/
def InOneEntry (lines : List InfoLine) (index line : UInt64) : Prop :=
  ∃ pair : FilePair lines index line,
    ∀ info ∈ pair.between, info ≠ .unitHeader ∧ info ≠ .entryHeader

/-- The file is the last one of a named unit before the line, and no line before has spent it. -/
def Combined (lines : List InfoLine) (unit : UnitName) (index line : UInt64) : Prop :=
  ∃ pair : FilePair lines index line, (∀ info ∈ pair.between, info.setsDeclFile = none) ∧
    latest? InfoLine.setsUnit (pair.before ++ .tracked .declFile pair.file :: pair.between) =
      some (some unit)

/-- Every attribute line that counts is of an entry with a header. -/
def Headed (lines : List InfoLine) : Prop :=
  ∀ info ∈ lines.takeWhile (· ≠ .entryHeader), ∀ kind value, info ≠ .tracked kind value

theorem Headed.of_unitHeader (lines : List InfoLine) :
    Headed (.unitHeader :: .entryHeader :: lines) := by
  intro info ahead kind value
  have first : info = .unitHeader := by simpa using ahead
  rw [first]
  exact InfoLine.noConfusion

namespace EntryScan

variable {before : List InfoLine}

theorem getD_none_eq_some_iff {γ : Type} {set : Option (Option γ)} {value : γ} :
    set.getD none = some value ↔ set = some (some value) := by
  cases set with
  | none => simp
  | some held => simp

theorem unit_foldl_eq_some_iff {unit : UnitName} :
    (before.foldl step {}).unit = some unit ↔
      latest? InfoLine.setsUnit before = some (some unit) := by
  rw [unit_foldl]
  exact getD_none_eq_some_iff

theorem declFile_foldl_eq_some_iff {index : UInt64} :
    (before.foldl step {}).declFile = some index ↔
      latest? InfoLine.setsDeclFile before = some (some index) := by
  rw [declFile_foldl]
  exact getD_none_eq_some_iff

end EntryScan

theorem InfoLine.setsDeclFile_eq_some_some_iff {info : InfoLine} {index : UInt64} :
    info.setsDeclFile = some (some index) ↔
      ∃ file, info = .tracked .declFile file ∧ firstNumber? file = some index := by
  constructor
  · intro set
    rcases info with _ | _ | ⟨_ | _ | _ | _, value⟩ | _
    case tracked.declFile => exact ⟨value, rfl, Option.some.inj set⟩
    all_goals cases set
  · rintro ⟨file, rfl, number⟩
    exact congrArg some number

namespace Declaration

variable {dump : Text} {table : SourceTable} {source : Path} {line : UInt64}

/-- A declaration combines a file and a line of one unit. -/
theorem combined_of_find? {declaration : Declaration}
    (found : find? dump table source line = some declaration) :
    Combined (infoLines dump) declaration.unit declaration.index declaration.line := by
  obtain ⟨before, value, after, layout, completed⟩ := EntryScan.complete?_of_find? found
  obtain ⟨named, pending, number, rfl, _⟩ := EntryScan.complete?_eq_some_iff.mp completed
  rw [EntryScan.unit_foldl_eq_some_iff] at named
  rw [EntryScan.declFile_foldl_eq_some_iff, latest?_eq_some_iff] at pending
  obtain ⟨front, info, between, rfl, set, silent⟩ := pending
  obtain ⟨file, rfl, index⟩ := InfoLine.setsDeclFile_eq_some_some_iff.mp set
  have split : infoLines dump = front ++ .tracked .declFile file ::
      (between ++ .tracked .declLine value :: after) := by
    rw [infoLines, layout, List.append_assoc, List.cons_append]
  exact ⟨⟨front, file, between, value, after, split, index, number⟩, silent, named⟩

/-- Every such file and line are combined for a table that knows the file. -/
theorem find?_of_combined {unit : UnitName} {index : UInt64}
    (combined : Combined (infoLines dump) unit index line) (path : Path) :
    ∃ declaration, find? dump (SourceTable.empty.insert { unit, index } path) path line =
      some declaration ∧ declaration.index = index ∧ declaration.line = line := by
  obtain ⟨⟨front, file, between, value, after, layout, number, declared⟩, silent, named⟩ := combined
  simp only [] at silent named
  let before := front ++ .tracked .declFile file :: between
  have split : infoLines dump = before ++ .tracked .declLine value :: after := by
    rw [layout, List.append_assoc, List.cons_append]
  have pending : (before.foldl EntryScan.step {}).declFile = some index := by
    rw [EntryScan.declFile_foldl_eq_some_iff, latest?_eq_some_iff]
    exact ⟨front, _, between, rfl, congrArg some number, silent⟩
  have known : (SourceTable.empty.insert { unit, index } path).path? unit index = some path := by
    rw [SourceTable.path?_insert, if_pos rfl]
  have completed : ((before.foldl EntryScan.step {}).complete?
      (SourceTable.empty.insert { unit, index } path) path line value after).isSome = true := by
    rw [Option.isSome_iff_exists]
    let location := (before.foldl EntryScan.step {}).locationBefore after
    refine ⟨{ unit, index, path, line, location }, ?_⟩
    rw [EntryScan.complete?_eq_some_iff]
    exact ⟨EntryScan.unit_foldl_eq_some_iff.mpr named, pending, declared, rfl, known, rfl, rfl⟩
  have present := EntryScan.find?_isSome_of_complete? completed
  rw [← split] at present
  obtain ⟨declaration, found⟩ := Option.isSome_iff_exists.mp present
  obtain ⟨_, _, _, _, earlier⟩ := EntryScan.complete?_of_find? found
  obtain ⟨_, _, _, sameLine, listed, _⟩ := EntryScan.complete?_eq_some_iff.mp earlier
  rw [SourceTable.path?_insert] at listed
  split_ifs at listed with sameKey
  · exact ⟨declaration, found, (congrArg SourceKey.index sameKey).symm, sameLine⟩
  · cases listed

/-- No declaration mixes two entries exactly if each combined file and line also stand in one. -/
theorem inOneEntry_declarations_iff (dump : Text) :
    (∀ table source line declaration, find? dump table source line = some declaration →
      InOneEntry (infoLines dump) declaration.index declaration.line) ↔
    ∀ unit index line, Combined (infoLines dump) unit index line →
      InOneEntry (infoLines dump) index line := by
  constructor
  · intro unmixed unit index line combined
    obtain ⟨declaration, found, rfl, rfl⟩ := find?_of_combined combined []
    exact unmixed _ _ _ declaration found
  · intro together table source line declaration found
    exact together _ _ _ (combined_of_find? found)

/-- The first entry behind that of the unit has a file and no line, the next one a line and no
file. -/
def mixedLines : List Text :=
  [unitHeader 0, entryHeader 0 0xb "1 (DW_TAG_compile_unit)".toList,
    programLine 0xc 0, entryHeader 1 0x10 "2 (DW_TAG_inlined_subroutine)".toList,
    (Detail.declFile 1).line 0x11, entryHeader 1 0x12 "3 (DW_TAG_variable)".toList,
    (Detail.declLine 12).line 0x13]

def mixedInfo : List InfoLine :=
  [.unitHeader, .entryHeader, .tracked .stmtList (Numeral.markedHexadecimal 0), .entryHeader,
    .tracked .declFile (Numeral.decimal 1), .entryHeader, .tracked .declLine (Numeral.decimal 12)]

theorem infoLines_mixedLines : infoLines (Text.unlines mixedLines) = mixedInfo := by
  have single : ∀ line ∈ mixedLines, '\n' ∉ line := by
    intro line member
    simp only [mixedLines, List.mem_cons, List.not_mem_nil, or_false] at member
    rcases member with rfl | rfl | rfl | rfl | rfl | rfl | rfl
    · exact (isLine_unitHeader 0).single
    · exact newline_notMem_entryHeader 0 0xb (by decide)
    · exact newline_notMem_programLine 0xc 0
    · exact newline_notMem_entryHeader 1 0x10 (by decide)
    · exact (Detail.declFile 1).newline_notMem_line 0x11
    · exact newline_notMem_entryHeader 1 0x12 (by decide)
    · exact (Detail.declLine 12).newline_notMem_line 0x13
  have opening : InfoLine.ofLine (Text.dropReturn (unitHeader 0)) = .unitHeader := by
    rw [Text.dropReturn_of_back (isLine_unitHeader 0).back, ofLine_unitHeader]
  rw [infoLines, Text.lines_unlines single, List.map_map]
  simp only [mixedLines, List.map_cons, List.map_nil, Function.comp_apply, opening,
    ofLine_programLine, ofLine_entryHeader, Detail.ofLine_line]
  rfl

theorem headed_mixedInfo : Headed mixedInfo := Headed.of_unitHeader _

theorem not_inOneEntry_mixedInfo (index line : UInt64) : ¬ InOneEntry mixedInfo index line := by
  rintro ⟨⟨before, file, between, number, after, layout, _, _⟩, together⟩
  simp only [] at together
  simp [mixedInfo, List.cons_eq_append_iff] at layout
  obtain ⟨_, _, behind⟩ := layout
  cases between with
  | nil => cases behind
  | cons info between =>
      have header : info = .entryHeader := (List.cons.inj behind).1
      exact (together info List.mem_cons_self).2 header

/-- The declaration found has the file of one entry and the line of the next. -/
theorem file_read_into_next_entry :
    Headed (infoLines (Text.unlines mixedLines)) ∧
      (find? (Text.unlines mixedLines)
        (SourceTable.empty.insert { unit := .offset 0, index := 1 } "/src/main.c".toList)
        "/src/main.c".toList 12).map (fun found => (found.index, found.line)) = some (1, 12) ∧
      ¬ InOneEntry (infoLines (Text.unlines mixedLines)) 1 12 := by
  rw [find?, ← infoLines, infoLines_mixedLines]
  exact ⟨headed_mixedInfo, by decide, not_inOneEntry_mixedInfo 1 12⟩

end Declaration

end LiveRange
