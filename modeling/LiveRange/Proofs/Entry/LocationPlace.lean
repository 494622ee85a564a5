import LiveRange.Proofs.Entry.FirstMatch
import LiveRange.Proofs.Text.Lines

/-! Where in an entry its one location stands does not matter. Read ahead of or behind it, the
declaration lines of the entry find the same location, and so do the entries behind. -/

namespace LiveRange

/-- Lines of an entry other than its location. -/
def InfoLine.inEntry (info : InfoLine) : Bool :=
  !info.opensEntry && (info.value? .location).isNone

/-- An entry with a header and one location, and what stands before and behind it in a dump. The
other lines of the entry keep their order. Lines that the location is not moved over may count as
behind. -/
structure LocatedEntry where
  before : List Text
  header : Text
  location : Text
  others : List Text
  behind : List Text
  headed : InfoLine.ofLine header = .entryHeader
  located : ((InfoLine.ofLine location).value? .location).isSome
  inside : ∀ line ∈ others, (InfoLine.ofLine line).inEntry

/-- The location stands behind so many of the other lines of the entry. -/
def LocatedEntry.linesAt (entry : LocatedEntry) (place : Nat) : List Text :=
  entry.before ++ entry.header ::
    (entry.others.take place ++ entry.location :: (entry.others.drop place ++ entry.behind))

namespace InfoLine

theorem inEntry_iff {info : InfoLine} :
    info.inEntry = true ↔ info.opensEntry = false ∧ info.value? .location = none := by
  rw [inEntry, Bool.and_eq_true, Bool.not_eq_true', Option.isNone_iff_eq_none]

theorem eq_location_of_value? {info : InfoLine} (located : (info.value? .location).isSome) :
    ∃ value, info = .tracked .location value := by
  rcases info with _ | _ | ⟨_ | _ | _ | _, value⟩ | _
  case tracked.location => exact ⟨value, rfl⟩
  all_goals cases located

end InfoLine

namespace EntryScan

variable {table : SourceTable} {source : Path} {line : UInt64} {scan : EntryScan}
  {front : List InfoLine}

theorem trailingLocation?_of_inEntry (inside : ∀ info ∈ front, info.inEntry) (value : Text)
    (rest : List InfoLine) :
    trailingLocation? (front ++ .tracked .location value :: rest) = some (namedList? value) := by
  have unopened : ∀ info ∈ front, (!info.opensEntry) = true := by
    intro info member
    rw [(InfoLine.inEntry_iff.mp (inside info member)).1]
    rfl
  have silent : front.findSome? (InfoLine.value? .location) = none := by
    rw [List.findSome?_eq_none_iff]
    intro info member
    exact (InfoLine.inEntry_iff.mp (inside info member)).2
  rw [trailingLocation?_eq, List.takeWhile_append_of_pos unopened, List.findSome?_append, silent]
  rfl

/-- A declaration line reads the location ahead, or has read it already. -/
theorem complete?_location (headers : scan.headersSeen = true)
    (unlocated : scan.ownLocation = false) (inside : ∀ info ∈ front, info.inEntry)
    (value held : Text) (rest : List InfoLine) :
    scan.complete? table source line held (front ++ .tracked .location value :: rest) =
      (scan.step (.tracked .location value)).complete? table source line held (front ++ rest) := by
  have ahead : scan.locationBefore (front ++ .tracked .location value :: rest) =
      namedList? value := by
    rw [locationBefore, headers, unlocated, trailingLocation?_of_inEntry inside]
    rfl
  have already : (scan.step (.tracked .location value)).locationBefore (front ++ rest) =
      namedList? value := by
    simp [locationBefore, step]
  rw [complete?, complete?, ahead, already]
  rfl

/-- The location may as well stand right behind the header of the entry. -/
theorem find?_location (headers : scan.headersSeen = true) (unlocated : scan.ownLocation = false)
    (inside : ∀ info ∈ front, info.inEntry) (value : Text) (rest : List InfoLine) :
    find? table source line scan (front ++ .tracked .location value :: rest) =
      find? table source line (scan.step (.tracked .location value)) (front ++ rest) := by
  -- Over the lines before the location: none of them sets what it sets, so the steps commute.
  induction front generalizing scan with
  | nil => rfl
  | cons info front ih =>
      have here := inside info List.mem_cons_self
      have later : ∀ next ∈ front, next.inEntry := fun next member =>
        inside next (List.mem_cons_of_mem info member)
      cases info with
      | unitHeader => cases here
      | entryHeader => cases here
      | other => exact ih headers unlocated later
      | tracked kind held =>
          cases kind with
          | location => cases here
          | stmtList =>
              exact @ih (scan.step (.tracked .stmtList held)) headers unlocated later
          | declFile =>
              exact @ih (scan.step (.tracked .declFile held)) headers unlocated later
          | declLine =>
              have spent := @ih { scan with declFile := none } headers unlocated later
              rw [List.cons_append, List.cons_append, find?_declLine, find?_declLine,
                complete?_location headers unlocated later, spent]
              rfl

/-- Behind the header the location comes first, wherever it stands. -/
theorem find?_linesAt (entry : LocatedEntry) {value : Text}
    (located : InfoLine.ofLine entry.location = .tracked .location value) (place : Nat) :
    find? table source line scan ((entry.linesAt place).map InfoLine.ofLine) =
      find? table source line scan ((entry.before ++ entry.header :: entry.location ::
        (entry.others ++ entry.behind)).map InfoLine.ofLine) := by
  let opened := ((entry.before.map InfoLine.ofLine).foldl step scan).step .entryHeader
  let front := (entry.others.take place).map InfoLine.ofLine
  let back := (entry.others.drop place ++ entry.behind).map InfoLine.ofLine
  have inside : ∀ info ∈ front, info.inEntry := by
    intro info member
    obtain ⟨line, taken, rfl⟩ := List.mem_map.mp member
    exact entry.inside line (List.mem_of_mem_take taken)
  have whole : (entry.others ++ entry.behind).map InfoLine.ofLine = front ++ back := by
    rw [← List.map_append, ← List.append_assoc, List.take_append_drop]
  have ends : ∀ lines, trailingLocation? (.entryHeader :: lines) = none := fun _ => rfl
  have moved : find? table source line opened (front ++ .tracked .location value :: back) =
      find? table source line (opened.step (.tracked .location value)) (front ++ back) :=
    find?_location rfl rfl inside value back
  rw [LocatedEntry.linesAt, List.map_append, List.map_append, List.map_cons, List.map_cons,
    List.map_cons, List.map_append, List.map_cons, entry.headed, located, whole,
    find?_append_of_ends (ends _), find?_append_of_ends (ends _)]
  exact congrArg ((find? table source line scan (entry.before.map InfoLine.ofLine)).or ·) moved

end EntryScan

namespace Declaration

/-- Dumps that differ in the place of the location among the lines of an entry have the same
declarations, with the same locations. -/
theorem find?_of_location_moved (entry : LocatedEntry) {dump moved : Text} {place other : Nat}
    (shown : dump.lines = entry.linesAt place) (shownMoved : moved.lines = entry.linesAt other)
    (table : SourceTable) (source : Path) (line : UInt64) :
    find? moved table source line = find? dump table source line := by
  obtain ⟨value, located⟩ := InfoLine.eq_location_of_value? entry.located
  rw [find?, find?, shown, shownMoved, EntryScan.find?_linesAt entry located place,
    EntryScan.find?_linesAt entry located other]

/-- The entry behind has no location and takes over that of the entry. -/
def variableEntry : LocatedEntry where
  before := ["Compilation Unit @ offset 0:".toList, "DW_AT_stmt_list: 0".toList]
  header := "<1><2d>: Abbrev Number: 2".toList
  location := "DW_AT_location: 0x10 (location list)".toList
  others := ["DW_AT_decl_file: 1".toList, "DW_AT_decl_line: 12".toList, "DW_AT_type: <50>".toList]
  behind := ["<1><34>: Abbrev Number: 2".toList, "DW_AT_decl_file: 1".toList,
    "DW_AT_decl_line: 13".toList]
  headed := by decide +kernel
  located := by decide +kernel
  inside := by decide +kernel

theorem find?_of_location_moved_variableEntry :
    (Text.unlines (variableEntry.linesAt 0)).lines = variableEntry.linesAt 0 ∧
      (Text.unlines (variableEntry.linesAt 2)).lines = variableEntry.linesAt 2 ∧
      ∀ table source line, find? (Text.unlines (variableEntry.linesAt 2)) table source line =
        find? (Text.unlines (variableEntry.linesAt 0)) table source line := by
  have shown : (Text.unlines (variableEntry.linesAt 0)).lines = variableEntry.linesAt 0 := by
    decide +kernel
  have shownMoved : (Text.unlines (variableEntry.linesAt 2)).lines = variableEntry.linesAt 2 := by
    decide +kernel
  exact ⟨shown, shownMoved, find?_of_location_moved variableEntry shown shownMoved⟩

end Declaration

end LiveRange
