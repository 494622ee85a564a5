import LiveRange.Finding
import LiveRange.Proofs.Entry.Scan
import LiveRange.Proofs.SourceTable.Scan
import LiveRange.Proofs.Text.Lines

/-! Of a table of sources, only the entries of the source that is looked for have a part in which
declaration is found. -/

namespace LiveRange

namespace SourceTable

/-- The entries of one source. -/
def only (table : SourceTable) (source : Path) : SourceTable where
  entries := table.entries.filter (·.2.Same source)
  distinct := table.distinct.sublist (List.filter_sublist.map _)

/-- Both tables have the same entries of the source. -/
def AgreeOn (source : Path) (table other : SourceTable) : Prop :=
  ∀ key path, path.Same source → ((key, path) ∈ table.entries ↔ (key, path) ∈ other.entries)

/-- Both tables have the source under the same keys, each in a spelling of its own. -/
def AlignOn (source : Path) (table other : SourceTable) : Prop :=
  ∀ key, (∃ path, (key, path) ∈ table.entries ∧ path.Same source) ↔
    ∃ path, (key, path) ∈ other.entries ∧ path.Same source

/-- The path of a key, if it is one of the source. -/
def pathOf? (table : SourceTable) (source : Path) (unit : UnitName) (index : UInt64) :
    Option Path :=
  (table.path? unit index).filter (·.Same source)

variable {table other : SourceTable} {source : Path}

theorem pathOf?_eq_some_iff {unit : UnitName} {index : UInt64} {path : Path} :
    table.pathOf? source unit index = some path ↔
      table.path? unit index = some path ∧ path.Same source := by
  rw [pathOf?, Option.filter_eq_some_iff, decide_eq_true_iff]

theorem mem_entries_iff_pathOf? {unit : UnitName} {index : UInt64} {path : Path} :
    ({ unit, index }, path) ∈ table.entries ∧ path.Same source ↔
      table.pathOf? source unit index = some path := by
  rw [mem_entries_iff, pathOf?_eq_some_iff]

theorem AgreeOn.pathOf? (agree : AgreeOn source table other) (unit : UnitName) (index : UInt64) :
    table.pathOf? source unit index = other.pathOf? source unit index := by
  apply Option.ext
  intro path
  rw [← mem_entries_iff_pathOf?, ← mem_entries_iff_pathOf?]
  exact and_congr_left (agree _ path)

theorem AlignOn.pathOf? (align : AlignOn source table other) (unit : UnitName) (index : UInt64) :
    Option.Rel Path.Same (table.pathOf? source unit index) (other.pathOf? source unit index) := by
  have keyed := align { unit, index }
  simp only [mem_entries_iff_pathOf?] at keyed
  cases here : table.pathOf? source unit index with
  | none =>
      cases there : other.pathOf? source unit index with
      | none => exact .none
      | some path =>
          have ⟨_, known⟩ := keyed.mpr ⟨path, there⟩
          rw [here] at known
          cases known
  | some path =>
      have ⟨spelling, known⟩ := keyed.mp ⟨path, here⟩
      rw [known]
      have same := (pathOf?_eq_some_iff.mp here).2
      have sameOther := (pathOf?_eq_some_iff.mp known).2
      exact .some (same.trans sameOther.symm)

theorem agreeOn_only (table : SourceTable) (source : Path) :
    AgreeOn source (table.only source) table := by
  intro key path same
  rw [only, List.mem_filter]
  exact and_iff_left (decide_eq_true same)

end SourceTable

/-- Declarations that differ at most in the path, and in that as the relation allows. -/
def Declaration.Alike (related : Path → Path → Prop) (declaration other : Declaration) : Prop :=
  related declaration.path other.path ∧ other = { declaration with path := other.path }

theorem Declaration.eq_of_alike {found other : Option Declaration}
    (alike : Option.Rel (Alike Eq) found other) : found = other := by
  cases alike with
  | none => rfl
  | some alike =>
      have ⟨path, same⟩ := alike
      rw [same, ← path]

namespace EntryScan

variable {table other : SourceTable} {source : Path} {line : UInt64} {scan : EntryScan}

/-- A declaration is completed by any table that has the source under its key. -/
theorem complete?_of_pathOf? {value : Text} {later : List InfoLine} {declaration : Declaration}
    {path : Path}
    (completed : scan.complete? table source line value later = some declaration)
    (known : other.pathOf? source declaration.unit declaration.index = some path) :
    scan.complete? other source line value later = some { declaration with path } := by
  have ⟨unit, index, number, sameLine, _, _, location⟩ := complete?_eq_some_iff.mp completed
  have ⟨listed, same⟩ := SourceTable.pathOf?_eq_some_iff.mp known
  exact complete?_eq_some_iff.mpr ⟨unit, index, number, sameLine, listed, same, location⟩

theorem pathOf?_of_complete? {value : Text} {later : List InfoLine} {declaration : Declaration}
    (completed : scan.complete? table source line value later = some declaration) :
    table.pathOf? source declaration.unit declaration.index = some declaration.path := by
  have ⟨_, _, _, _, listed, same, _⟩ := complete?_eq_some_iff.mp completed
  exact SourceTable.pathOf?_eq_some_iff.mpr ⟨listed, same⟩

section Related

variable {related : Path → Path → Prop}
  (known : ∀ unit index, Option.Rel related (table.pathOf? source unit index)
    (other.pathOf? source unit index))

include known

theorem complete?_related (value : Text) (later : List InfoLine) :
    Option.Rel (Declaration.Alike related) (scan.complete? table source line value later)
      (scan.complete? other source line value later) := by
  cases here : scan.complete? table source line value later with
  | some declaration =>
      have paths := known declaration.unit declaration.index
      rw [pathOf?_of_complete? here] at paths
      cases there : other.pathOf? source declaration.unit declaration.index with
      | none =>
          rw [there] at paths
          cases paths
      | some path =>
          rw [there, Option.rel_some_some] at paths
          rw [complete?_of_pathOf? here there]
          exact .some ⟨paths, rfl⟩
  | none =>
      cases there : scan.complete? other source line value later with
      | none => exact .none
      | some declaration =>
          have paths := known declaration.unit declaration.index
          rw [pathOf?_of_complete? there] at paths
          cases listed : table.pathOf? source declaration.unit declaration.index with
          | none =>
              rw [listed] at paths
              cases paths
          | some path =>
              have completed := complete?_of_pathOf? there listed
              rw [here] at completed
              cases completed

/-- A line that completes no declaration in one table completes none in the other, so both scans go
on from the same state. -/
theorem find?_related (lines : List InfoLine) :
    Option.Rel (Declaration.Alike related) (find? table source line scan lines)
      (find? other source line scan lines) := by
  induction lines generalizing scan with
  | nil => exact .none
  | cons info later ih =>
      by_cases closing : ∃ value, info = .tracked .declLine value
      · have ⟨value, same⟩ := closing
        have completed : Option.Rel (Declaration.Alike related)
            (scan.complete? table source line value later)
            (scan.complete? other source line value later) := complete?_related known value later
        rw [same, find?_declLine, find?_declLine]
        generalize scan.complete? table source line value later = first at completed ⊢
        generalize scan.complete? other source line value later = second at completed ⊢
        cases completed with
        | none => exact ih
        | some alike => exact .some alike
      · have deferred : ∀ value, info ≠ .tracked .declLine value := not_exists.mp closing
        rw [find?_cons deferred, find?_cons deferred]
        exact ih

end Related

end EntryScan

namespace Declaration

/-- Entries of other sources may be dropped, added or changed: the declaration that is found stays
the same, and with it the location list. Where the source itself is spelled another way, so is the
path of the declaration, and nothing else. -/
theorem find?_of_target_entries (source : Path) (line : UInt64) :
    (∀ dump table other, SourceTable.AgreeOn source table other →
        find? dump table source line = find? dump other source line) ∧
      (∀ dump table, find? dump (table.only source) source line = find? dump table source line) ∧
      (∀ dump table other, SourceTable.AlignOn source table other →
        Option.Rel (Alike Path.Same) (find? dump table source line)
          (find? dump other source line)) ∧
      ∀ (dumps : Dumps) (lines : Text),
        SourceTable.AgreeOn source (.ofLineDump dumps.lines) (.ofLineDump lines) →
          dumps.finding source line = { dumps with lines }.finding source line := by
  have agreeing : ∀ dump table other, SourceTable.AgreeOn source table other →
      find? dump table source line = find? dump other source line := by
    intro dump table other agree
    apply eq_of_alike
    apply EntryScan.find?_related
    intro unit index
    rw [agree.pathOf?]
    cases other.pathOf? source unit index with
    | none => exact .none
    | some path => exact .some rfl
  refine ⟨agreeing, ?_, ?_, ?_⟩
  · intro dump table
    exact agreeing dump _ _ (SourceTable.agreeOn_only table source)
  · intro dump table other align
    exact EntryScan.find?_related align.pathOf? _
  · intro dumps lines agree
    rw [Dumps.finding, Dumps.finding, agreeing _ _ _ agree]

/-- A program with the source that is looked for and with one more row. -/
def programWith (directory row : String) : Text :=
  Text.unlines <| [" Offset: 0x0", " The Directory Table", directory, " The File Name Table",
    " 1 1 0 0 main.c", row].map String.toList

/-- The first line that has the number belongs to the file of the other row. -/
def twoFileDumps : Dumps where
  lines := programWith " 1 /src" " 2 1 0 0 util.c"
  info := Text.unlines <| [" <b> DW_AT_stmt_list : 0x0", " <c> DW_AT_decl_file : 2",
    " <d> DW_AT_decl_line : 12", " <e> DW_AT_location : 0x8 (location list)",
    " <f> DW_AT_decl_file : 1", " <10> DW_AT_decl_line : 12"].map String.toList
  locations := []

theorem entries_twoFiles :
    (SourceTable.ofLineDump twoFileDumps.lines).entries =
      [({ unit := .offset 0, index := 2 }, "/src/util.c".toList),
        ({ unit := .offset 0, index := 1 }, "/src/main.c".toList)] := by
  decide +kernel

/-- The directory of the other row is not listed. -/
theorem entries_lostFile :
    (SourceTable.ofLineDump (programWith " 1 /src" " 2 9 0 0 util.c")).entries =
      [({ unit := .offset 0, index := 1 }, "/src/main.c".toList)] := by
  decide +kernel

theorem entries_dottedDirectory :
    (SourceTable.ofLineDump (programWith " 1 /src/." "")).entries =
      [({ unit := .offset 0, index := 1 }, "/src/./main.c".toList)] := by
  decide +kernel

theorem agreeOn_lostFile :
    SourceTable.AgreeOn "/src/main.c".toList (.ofLineDump twoFileDumps.lines)
      (.ofLineDump (programWith " 1 /src" " 2 9 0 0 util.c")) := by
  intro key path same
  rw [entries_twoFiles, entries_lostFile, List.mem_cons]
  apply or_iff_right
  intro first
  rw [(Prod.mk.inj first).2] at same
  exact absurd same (by decide)

theorem alignOn_dottedDirectory :
    SourceTable.AlignOn "/src/main.c".toList
      (.ofLineDump (programWith " 1 /src" " 2 9 0 0 util.c"))
      (.ofLineDump (programWith " 1 /src/." "")) := by
  intro key
  have plain : Path.Same "/src/main.c".toList "/src/main.c".toList := rfl
  have dotted : Path.Same "/src/./main.c".toList "/src/main.c".toList := by decide
  rw [entries_lostFile, entries_dottedDirectory]
  simp only [List.mem_singleton, Prod.mk.injEq, and_assoc, exists_and_left, exists_eq_left, plain,
    dotted]

theorem find?_of_target_entries_twoFiles :
    SourceTable.AgreeOn "/src/main.c".toList (.ofLineDump twoFileDumps.lines)
        (.ofLineDump (programWith " 1 /src" " 2 9 0 0 util.c")) ∧
      SourceTable.AlignOn "/src/main.c".toList
        (.ofLineDump (programWith " 1 /src" " 2 9 0 0 util.c"))
        (.ofLineDump (programWith " 1 /src/." "")) ∧
      twoFileDumps.finding "/src/main.c".toList 12 =
        { twoFileDumps with lines := programWith " 1 /src" " 2 9 0 0 util.c" }.finding
          "/src/main.c".toList 12 ∧
      find? twoFileDumps.info (.ofLineDump twoFileDumps.lines) "/src/main.c".toList 12 =
        find? twoFileDumps.info (.ofLineDump (programWith " 1 /src" " 2 9 0 0 util.c"))
          "/src/main.c".toList 12 ∧
      Option.Rel (Alike Path.Same)
        (find? twoFileDumps.info (.ofLineDump (programWith " 1 /src" " 2 9 0 0 util.c"))
          "/src/main.c".toList 12)
        (find? twoFileDumps.info (.ofLineDump (programWith " 1 /src/." ""))
          "/src/main.c".toList 12) ∧
      twoFileDumps.finding "/src/main.c".toList 12 =
        .noRanges { unit := .offset 0, index := 1, path := "/src/main.c".toList, line := 12,
                    location := some ⟨8⟩ } ⟨8⟩ := by
  have ⟨agreeing, _, aligning, findings⟩ := find?_of_target_entries "/src/main.c".toList 12
  refine ⟨agreeOn_lostFile, alignOn_dottedDirectory, findings _ _ agreeOn_lostFile,
    agreeing _ _ _ agreeOn_lostFile, aligning _ _ _ alignOn_dottedDirectory, ?_⟩
  decide +kernel

end Declaration

end LiveRange
