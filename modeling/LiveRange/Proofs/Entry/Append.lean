import LiveRange.Proofs.Entry.FirstMatch
import LiveRange.Proofs.Entry.Pairing
import LiveRange.Proofs.Text.Lines

/-! A dump that starts with the header of a unit is scanned the same behind any other dump. Of the
dump before it the scan keeps only whether entries have headers, and that is seen where the new dump
has an attribute without one. -/

namespace LiveRange

theorem infoLines_append {front : Text} (ended : front.Ended) (rest : Text) :
    infoLines (front ++ rest) = infoLines front ++ infoLines rest := by
  rw [infoLines, Text.lines_append ended, List.map_append, infoLines, infoLines]

theorem Headed.tail {info : InfoLine} {lines : List InfoLine} (headed : Headed (info :: lines))
    (other : info ≠ .entryHeader) : Headed lines := by
  have whole : (info :: lines).takeWhile (· ≠ .entryHeader) =
      info :: lines.takeWhile (· ≠ .entryHeader) :=
    List.takeWhile_cons_of_pos (decide_eq_true other)
  intro later ahead
  exact headed later (whole ▸ List.mem_cons_of_mem info ahead)

theorem Headed.untracked {kind : Attribute} {value : Text} {lines : List InfoLine} :
    ¬ Headed (.tracked kind value :: lines) := by
  intro headed
  exact headed _ List.mem_cons_self kind value rfl

namespace EntryScan

variable {table : SourceTable} {source : Path} {line : UInt64}

/-- Attributes that all stand behind a header are read with headers seen, whatever came before. -/
theorem find?_of_headed {lines : List InfoLine} (headed : Headed lines) (scan : EntryScan)
    (seen : Bool) :
    find? table source line { scan with headersSeen := seen } lines =
      find? table source line scan lines := by
  induction lines generalizing scan with
  | nil => rfl
  | cons info lines ih =>
      cases info with
      | unitHeader => exact ih (headed.tail (by decide)) { headersSeen := scan.headersSeen }
      | entryHeader => rfl
      | tracked kind value => exact absurd headed Headed.untracked
      | other => exact ih (headed.tail (by decide)) scan

theorem foldl_unitHeader (lines : List InfoLine) :
    (lines ++ [InfoLine.unitHeader]).foldl step {} =
      { headersSeen := decide (InfoLine.entryHeader ∈ lines) } := by
  have seen : (lines.foldl step {}).headersSeen = decide (InfoLine.entryHeader ∈ lines) := by
    rw [Bool.eq_iff_iff, decide_eq_true_iff]
    exact headersSeen_foldl_iff lines
  rw [List.foldl_append, List.foldl_cons, List.foldl_nil, ← seen]
  rfl

/-- From the header of a unit on, a scan that has come from other units finds what a new one does. -/
theorem find?_unitHeader {scan : EntryScan} {lines : List InfoLine}
    (known : scan.headersSeen = false ∨ Headed lines) :
    find? table source line scan (.unitHeader :: lines) =
      find? table source line {} (.unitHeader :: lines) := by
  have afresh : find? table source line { headersSeen := scan.headersSeen } lines =
      find? table source line {} lines := by
    rcases known with unseen | headed
    · rw [unseen]
    · exact find?_of_headed headed {} scan.headersSeen
  exact afresh

end EntryScan

namespace Declaration

/-- The first line is the header of a unit. -/
def StartsUnit (dump : Text) : Prop := (infoLines dump).head? = some .unitHeader

instance (dump : Text) : Decidable (StartsUnit dump) :=
  inferInstanceAs (Decidable ((infoLines dump).head? = some .unitHeader))

/-- The declaration found is that of the first dump, or else that of the second one alone. Behind
the header between them nothing else is known of the first dump than whether it has entry
headers. -/
theorem find?_append_of_startsUnit {front rest : Text} (ended : front.Ended)
    (starts : StartsUnit rest)
    (known : .entryHeader ∉ infoLines front ∨ Headed (infoLines rest)) :
    (∀ table source line, find? (front ++ rest) table source line =
        (find? front table source line).or (find? rest table source line)) ∧
      ((infoLines (front ++ rest)).take ((infoLines front).length + 1)).foldl EntryScan.step {} =
        { headersSeen := decide (.entryHeader ∈ infoLines front) } := by
  obtain ⟨later, layout⟩ := List.head?_eq_some_iff.mp starts
  constructor
  · intro table source line
    have ends : trailingLocation? (.unitHeader :: later) = none := rfl
    have behind : ((infoLines front).foldl EntryScan.step {}).headersSeen = false ∨
        Headed later := by
      refine known.imp ?_ ?_
      · intro absent
        exact Bool.eq_false_iff.mpr (mt (EntryScan.headersSeen_foldl_iff _).mp absent)
      · intro headed
        rw [layout] at headed
        exact headed.tail (by decide)
    calc find? (front ++ rest) table source line
        = EntryScan.find? table source line {} (infoLines front ++ .unitHeader :: later) := by
          rw [find?, ← infoLines, infoLines_append ended, layout]
      _ = (EntryScan.find? table source line {} (infoLines front)).or
            (EntryScan.find? table source line ((infoLines front).foldl EntryScan.step {})
              (.unitHeader :: later)) := EntryScan.find?_append_of_ends ends (infoLines front)
      _ = (find? front table source line).or (find? rest table source line) := by
          rw [EntryScan.find?_unitHeader behind, ← layout]
          rfl
  · have opening : (infoLines (front ++ rest)).take ((infoLines front).length + 1) =
        infoLines front ++ [.unitHeader] := by
      rw [infoLines_append ended, layout, List.take_length_add_append]
      rfl
    rw [opening, EntryScan.foldl_unitHeader]

/-- The unit breaks off with a declaration file that no line has spent. -/
def pendingUnit : Text := Text.unlines
  ["  Compilation Unit @ offset 0x0:".toList, " <0><b>: Abbrev Number: 1".toList,
    "    <c>   DW_AT_stmt_list   : 0x0".toList, " <1><10>: Abbrev Number: 2".toList,
    "    <11>   DW_AT_location    : 0x8 (location list)".toList,
    "    <12>   DW_AT_decl_file   : 1".toList]

/-- The first declaration line is left without a file, the next one without a location. -/
def laterUnit : Text := Text.unlines
  ["  Compilation Unit @ offset 0x20:".toList, " <0><2b>: Abbrev Number: 1".toList,
    "    <2c>   DW_AT_stmt_list   : 0x0".toList, " <1><30>: Abbrev Number: 2".toList,
    "    <31>   DW_AT_decl_line   : 12".toList, "    <32>   DW_AT_decl_file   : 1".toList,
    "    <33>   DW_AT_decl_line   : 12".toList]

theorem infoLines_laterUnit : infoLines laterUnit =
    [.unitHeader, .entryHeader, .tracked .stmtList "0x0".toList, .entryHeader,
      .tracked .declLine "12".toList, .tracked .declFile "1".toList,
      .tracked .declLine "12".toList] := by
  decide +kernel

theorem find?_append_of_startsUnit_pendingUnit :
    pendingUnit.Ended ∧ StartsUnit laterUnit ∧
      (.entryHeader ∉ infoLines pendingUnit ∨ Headed (infoLines laterUnit)) ∧
      (∀ table source line, find? (pendingUnit ++ laterUnit) table source line =
        (find? pendingUnit table source line).or (find? laterUnit table source line)) ∧
      ((infoLines (pendingUnit ++ laterUnit)).take
          ((infoLines pendingUnit).length + 1)).foldl EntryScan.step {} =
        { headersSeen := decide (.entryHeader ∈ infoLines pendingUnit) } := by
  have ended : pendingUnit.Ended := by decide
  have starts : StartsUnit laterUnit := by
    rw [StartsUnit, infoLines_laterUnit]
    rfl
  have headed : Headed (infoLines laterUnit) := by
    rw [infoLines_laterUnit]
    exact Headed.of_unitHeader _
  exact ⟨ended, starts, Or.inr headed, find?_append_of_startsUnit ended starts (Or.inr headed)⟩

end Declaration

end LiveRange
