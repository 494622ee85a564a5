import LiveRange.Proofs.Entry.Printed
import LiveRange.Proofs.Entry.Scan

/-! Entries printed one behind the other are scanned one by one. What is read of an entry does not
depend on where in it the location stands. -/

namespace LiveRange

inductive DeclPart where
  | file (index : UInt64)
  | line (number : UInt64)
  deriving DecidableEq

namespace Detail

def declPart? : Detail → Option DeclPart
  | declFile index => some (.file index)
  | declLine number => some (.line number)
  | _ => none

def location? : Detail → Option PrintedLocation
  | location shown => some shown
  | _ => none

/-- What the header of an entry and some of its details are read as. -/
def opening (details : List (UInt64 × Detail)) : List InfoLine :=
  .entryHeader :: details.map (·.2.infoLine)

end Detail

/-- An entry with at most one location, and with a declaration file and line or neither. -/
structure InfoEntry where
  depth : UInt64
  offset : UInt64
  title : Text
  details : List (UInt64 × Detail)
  oneLine : '\n' ∉ title
  paired : details.filterMap (·.2.declPart?) = [] ∨
    ∃ index number, details.filterMap (·.2.declPart?) = [.file index, .line number]
  located : (details.filterMap (·.2.location?)).length ≤ 1

namespace InfoEntry

variable (entry : InfoEntry)

def lines : List Text :=
  entryHeader entry.depth entry.offset entry.title ::
    entry.details.map fun shown => shown.2.line shown.1

def infoLines : List InfoLine := Detail.opening entry.details

def declared? : Option (UInt64 × UInt64) :=
  match entry.details.filterMap fun shown => shown.2.declPart? with
  | [DeclPart.file index, DeclPart.line number] => some (index, number)
  | _ => none

/-- The location of the entry itself. An expression in place is one too, and names no list. -/
def ownLocation? : Option (Option ListOffset) :=
  (entry.details.findSome? (·.2.location?)).map PrintedLocation.named?

end InfoEntry

/-- A file and a line that are the ones looked for. -/
def declaredAt? (paths : UInt64 → Option Path) (source : Path) (line : UInt64) (entry : InfoEntry) :
    Option (UInt64 × Path) := do
  let (index, number) ← entry.declared?
  let path ← paths index
  if path.Same source ∧ number = line then some (index, path) else none

/-- The first entry that is declared there. Its location is its own one, or else that of the last
entry before it that has one, or else the one carried over. -/
def declarationIn? (paths : UInt64 → Option Path) (unit : UnitName) (source : Path) (line : UInt64)
    (carried : Option ListOffset) (entries : List InfoEntry) : Option Declaration :=
  let other (entry : InfoEntry) : Bool := (declaredAt? paths source line entry).isNone
  match entries.dropWhile other with
  | [] => none
  | entry :: _ =>
    (declaredAt? paths source line entry).map fun (index, path) =>
      { unit, index, path, line
        location := (latest? InfoEntry.ownLocation? (entries.takeWhile other ++ [entry])).getD
          carried }

/-- Either the first entry is declared there, or what it says of a location is carried over. -/
theorem declarationIn?_cons (paths : UInt64 → Option Path) (unit : UnitName) (source : Path)
    (line : UInt64) (carried : Option ListOffset) (entry : InfoEntry) (entries : List InfoEntry) :
    declarationIn? paths unit source line carried (entry :: entries) =
      ((declaredAt? paths source line entry).map fun (index, path) =>
        { unit, index, path, line, location := entry.ownLocation?.getD carried }).or
      (declarationIn? paths unit source line (entry.ownLocation?.getD carried) entries) := by
  have getD_or : ∀ set : Option (Option ListOffset),
      (set.or entry.ownLocation?).getD carried = set.getD (entry.ownLocation?.getD carried) := by
    intro set
    cases set <;> rfl
  cases declared : declaredAt? paths source line entry with
  | some found => simp [declarationIn?, declared, latest?]
  | none =>
      simp only [declarationIn?, declared, Option.isNone_none, List.dropWhile_cons_of_pos,
        List.takeWhile_cons_of_pos, List.cons_append, latest?_cons, getD_or]
      rfl

/-- A list that is not carried over is that of an entry. -/
theorem ownLocation?_of_declarationIn? {paths : UInt64 → Option Path} {unit : UnitName}
    {source : Path} {line : UInt64} {entries : List InfoEntry} {declaration : Declaration}
    {offset : ListOffset}
    (found : declarationIn? paths unit source line none entries = some declaration)
    (located : declaration.location = some offset) :
    ∃ entry ∈ entries, entry.ownLocation? = some (some offset) := by
  rw [declarationIn?] at found
  simp only at found
  split at found
  · cases found
  · next entry others left =>
      obtain ⟨⟨index, path⟩, _, rfl⟩ := Option.map_eq_some_iff.mp found
      have whole := List.takeWhile_append_dropWhile
        (p := fun entry => (declaredAt? paths source line entry).isNone) (l := entries)
      rw [left, ← List.singleton_append, ← List.append_assoc] at whole
      cases set : latest? InfoEntry.ownLocation? (entries.takeWhile
          (fun entry => (declaredAt? paths source line entry).isNone) ++ [entry]) with
      | none =>
          rw [set] at located
          cases located
      | some own =>
          rw [set] at located
          obtain ⟨before, owner, after, split, owned, _⟩ := latest?_eq_some_iff.mp set
          refine ⟨owner, ?_, owned.trans (congrArg some located)⟩
          rw [← whole, split]
          simp

namespace Detail

variable (details : List (UInt64 × Detail))

theorem filterMap_setsLocation :
    (details.map (·.2.infoLine)).filterMap InfoLine.setsLocation =
      (details.filterMap (·.2.location?)).map PrintedLocation.named? := by
  rw [List.filterMap_map, List.map_filterMap]
  apply List.filterMap_congr
  rintro ⟨_, detail⟩ _
  cases detail with
  | location shown => exact congrArg some shown.namedList?_value
  | _ => rfl

theorem filterMap_setsOwnLocation :
    (details.map (·.2.infoLine)).filterMap InfoLine.setsOwnLocation =
      (details.filterMap (·.2.location?)).map fun _ => true := by
  rw [List.filterMap_map, List.map_filterMap]
  apply List.filterMap_congr
  rintro ⟨_, detail⟩ _
  cases detail <;> rfl

theorem filterMap_setsDeclFile :
    (details.map (·.2.infoLine)).filterMap InfoLine.setsDeclFile =
      (details.filterMap (·.2.declPart?)).map fun
        | .file index => some index
        | .line _ => none := by
  rw [List.filterMap_map, List.map_filterMap]
  apply List.filterMap_congr
  rintro ⟨_, detail⟩ _
  cases detail with
  | declFile index => exact congrArg some (firstNumber?_decimal index)
  | _ => rfl

theorem filterMap_setsUnit : (details.map (·.2.infoLine)).filterMap InfoLine.setsUnit = [] := by
  rw [List.filterMap_map, List.filterMap_eq_nil_iff]
  rintro ⟨_, detail⟩ _
  cases detail <;> rfl

theorem filterMap_setsHeadersSeen :
    (details.map (·.2.infoLine)).filterMap InfoLine.setsHeadersSeen = [] := by
  rw [List.filterMap_map, List.filterMap_eq_nil_iff]
  rintro ⟨_, detail⟩ _
  cases detail <;> rfl

/-- Up to the next header, the rest of an entry is searched for its first location. -/
theorem trailingLocation?_append (rest : List InfoLine) :
    trailingLocation? (details.map (·.2.infoLine) ++ rest) =
      ((details.filterMap (·.2.location?)).head?.map PrintedLocation.named?).or
        (trailingLocation? rest) := by
  induction details with
  | nil => rfl
  | cons shown details ih =>
      obtain ⟨_, detail⟩ := shown
      cases detail with
      | location location =>
          rw [List.map_cons, List.cons_append, infoLine, trailingLocation?,
            location.namedList?_value]
          rfl
      | _ => exact ih

theorem undeclared_infoLines {details : List (UInt64 × Detail)}
    (undeclared : ∀ number, .line number ∉ details.filterMap (·.2.declPart?)) (value : Text) :
    .tracked .declLine value ∉ details.map (·.2.infoLine) := by
  intro member
  obtain ⟨⟨offset, detail⟩, listed, same⟩ := List.mem_map.mp member
  cases detail with
  | declLine number => exact undeclared number (List.mem_filterMap.mpr ⟨_, listed, rfl⟩)
  | _ => cases same

theorem undeclared_opening {details : List (UInt64 × Detail)}
    (undeclared : ∀ number, .line number ∉ details.filterMap (·.2.declPart?)) (value : Text) :
    .tracked .declLine value ∉ opening details := by
  intro member
  rcases List.mem_cons.mp member with header | inside
  · cases header
  · exact undeclared_infoLines undeclared value inside

end Detail

namespace EntryScan

variable {scan : EntryScan}

theorem headersSeen_foldl_details (scan : EntryScan) (details : List (UInt64 × Detail)) :
    ((Detail.opening details).foldl step scan).headersSeen = true := by
  have header : InfoLine.setsHeadersSeen .entryHeader = some true := rfl
  rw [Detail.opening, headersSeen_foldl, latest?_eq_getLast?, List.filterMap_cons_some header,
    Detail.filterMap_setsHeadersSeen]
  rfl

theorem unit_foldl_details (scan : EntryScan) (details : List (UInt64 × Detail)) :
    ((Detail.opening details).foldl step scan).unit = scan.unit := by
  rw [Detail.opening, unit_foldl, latest?_eq_getLast?, List.filterMap_cons_none rfl,
    Detail.filterMap_setsUnit]
  rfl

theorem location_foldl_details (scan : EntryScan) (details : List (UInt64 × Detail)) :
    ((Detail.opening details).foldl step scan).location =
      ((details.filterMap (·.2.location?)).getLast?.map PrintedLocation.named?).getD
        scan.location := by
  rw [Detail.opening, location_foldl, latest?_eq_getLast?, List.filterMap_cons_none rfl,
    Detail.filterMap_setsLocation, List.getLast?_map]

theorem ownLocation_foldl_details (scan : EntryScan) (details : List (UInt64 × Detail)) :
    ((Detail.opening details).foldl step scan).ownLocation =
      (details.filterMap (·.2.location?)).getLast?.isSome := by
  have header : InfoLine.setsOwnLocation .entryHeader = some false := rfl
  rw [Detail.opening, ownLocation_foldl, latest?_eq_getLast?, List.filterMap_cons_some header,
    Detail.filterMap_setsOwnLocation, List.getLast?_cons, List.getLast?_map]
  cases (details.filterMap (·.2.location?)).getLast? with
  | none => rfl
  | some shown => rfl

theorem declFile_foldl_details {details : List (UInt64 × Detail)} {index : UInt64}
    (pending : details.filterMap (·.2.declPart?) = [.file index]) (scan : EntryScan) :
    ((Detail.opening details).foldl step scan).declFile =
      some index := by
  rw [Detail.opening, declFile_foldl, latest?_eq_getLast?, List.filterMap_cons_none rfl,
    Detail.filterMap_setsDeclFile, pending]
  rfl

/-- Wherever in the entry its location stands, it is the one that counts. -/
theorem locationBefore_details {front back : List (UInt64 × Detail)}
    (single : ((front ++ back).filterMap (·.2.location?)).length ≤ 1) {rest : List InfoLine}
    (ends : trailingLocation? rest = none) (scan : EntryScan) :
    locationBefore ((Detail.opening front).foldl step scan)
        (back.map (·.2.infoLine) ++ rest) =
      (((front ++ back).findSome? (·.2.location?)).map PrintedLocation.named?).getD
        scan.location := by
  have first : (front ++ back).findSome? (·.2.location?) =
      (front.filterMap (·.2.location?) ++ back.filterMap (·.2.location?)).head? := by
    rw [← List.filterMap_append, List.head?_filterMap]
  rw [List.filterMap_append] at single
  rw [locationBefore, headersSeen_foldl_details, ownLocation_foldl_details, location_foldl_details,
    Detail.trailingLocation?_append, ends, Option.or_none, first]
  generalize front.filterMap (·.2.location?) = before at single ⊢
  generalize back.filterMap (·.2.location?) = behind at single ⊢
  cases before with
  | nil => rfl
  | cons shown others =>
      have alone : others = [] ∧ behind = [] := by simpa using single
      rw [alone.1, alone.2]
      rfl

end EntryScan

namespace InfoEntry

theorem newline_notMem_of_mem_lines {entry : InfoEntry} {line : Text}
    (member : line ∈ entry.lines) : '\n' ∉ line := by
  rcases List.mem_cons.mp member with rfl | shown
  · exact newline_notMem_entryHeader entry.depth entry.offset entry.oneLine
  · obtain ⟨⟨offset, detail⟩, _, rfl⟩ := List.mem_map.mp shown
    exact detail.newline_notMem_line offset

theorem map_ofLine_lines (entry : InfoEntry) :
    entry.lines.map (InfoLine.ofLine ∘ Text.dropReturn) = entry.infoLines := by
  have details : (entry.details.map fun shown => shown.2.line shown.1).map
      (InfoLine.ofLine ∘ Text.dropReturn) = entry.details.map (·.2.infoLine) := by
    rw [List.map_map]
    apply List.map_congr_left
    intro shown _
    rw [Function.comp_apply, Function.comp_apply, Detail.ofLine_line]
  rw [lines, List.map_cons, Function.comp_apply, ofLine_entryHeader, details, infoLines,
    Detail.opening]

variable {entry : InfoEntry} {index number : UInt64}

/-- The line of an entry closes it behind its file, and its location stands on either side. -/
theorem split_of_declared
    (parts : entry.details.filterMap (·.2.declPart?) = [.file index, .line number]) :
    ∃ front offset back, entry.details = front ++ (offset, .declLine number) :: back ∧
      front.filterMap (·.2.declPart?) = [.file index] ∧ back.filterMap (·.2.declPart?) = [] := by
  have split : entry.details.filterMap (·.2.declPart?) = [.file index] ++ [.line number] := parts
  rw [List.filterMap_eq_append_iff] at split
  obtain ⟨ahead, behind, whole, file, line⟩ := split
  rw [List.filterMap_eq_cons_iff] at line
  obtain ⟨between, ⟨offset, detail⟩, back, rfl, silent, closing, after⟩ := line
  have closed : detail = .declLine number := by
    cases detail with
    | declLine => cases closing; rfl
    | declFile => cases closing
    | untracked => cases closing
    | location => cases closing
  have quiet : between.filterMap (·.2.declPart?) = [] := List.filterMap_eq_nil_iff.mpr silent
  refine ⟨ahead ++ between, offset, back, ?_, ?_, after⟩
  · rw [whole, closed, List.append_assoc]
  · rw [List.filterMap_append, file, quiet, List.append_nil]

theorem location_split {front back : List (UInt64 × Detail)} {offset : UInt64}
    (split : entry.details = front ++ (offset, .declLine number) :: back) :
    ((front ++ back).filterMap (·.2.location?)).length ≤ 1 ∧
      entry.ownLocation? =
        ((front ++ back).findSome? (·.2.location?)).map PrintedLocation.named? := by
  have single := entry.located
  rw [split, List.filterMap_append, List.filterMap_cons_none rfl, ← List.filterMap_append] at single
  refine ⟨single, ?_⟩
  rw [ownLocation?, split, List.findSome?_append, List.findSome?_cons, List.findSome?_append]
  rfl

end InfoEntry

namespace EntryScan

variable {scan : EntryScan} {table : SourceTable} {source : Path} {line : UInt64}

theorem unit_foldl_infoLines (entry : InfoEntry) (scan : EntryScan) :
    (entry.infoLines.foldl step scan).unit = scan.unit :=
  unit_foldl_details scan entry.details

theorem location_foldl_infoLines (entry : InfoEntry) (scan : EntryScan) :
    (entry.infoLines.foldl step scan).location = entry.ownLocation?.getD scan.location := by
  have same : (entry.details.filterMap (·.2.location?)).getLast? =
      (entry.details.filterMap (·.2.location?)).head? := by
    have single := entry.located
    generalize entry.details.filterMap (·.2.location?) = locations at single ⊢
    match locations, single with
    | [], _ => rfl
    | [location], _ => rfl
  rw [InfoEntry.infoLines, location_foldl_details, same, List.head?_filterMap]
  rfl

/-- An entry is complete within itself. What follows it is scanned with its location in effect. -/
theorem find?_entry (entry : InfoEntry) {unit : UnitName} (named : scan.unit = some unit)
    {rest : List InfoLine} (ends : trailingLocation? rest = none) :
    find? table source line scan (entry.infoLines ++ rest) =
      ((declaredAt? (table.path? unit) source line entry).map fun (index, path) =>
        { unit, index, path, line, location := entry.ownLocation?.getD scan.location }).or
      (find? table source line (entry.infoLines.foldl step scan) rest) := by
  rcases entry.paired with silent | ⟨index, number, parts⟩
  · have undeclared : declaredAt? (table.path? unit) source line entry = none := by
      rw [declaredAt?, InfoEntry.declared?, silent]
      rfl
    have unclosed : ∀ value, .tracked .declLine value ∉ entry.infoLines :=
      Detail.undeclared_opening (by simp [silent])
    rw [find?_append unclosed, undeclared]
    rfl
  · obtain ⟨front, offset, back, split, file, silent⟩ := InfoEntry.split_of_declared parts
    obtain ⟨single, own⟩ := InfoEntry.location_split split
    have lines : entry.infoLines = Detail.opening front ++
        .tracked .declLine (Numeral.decimal number) :: back.map (·.2.infoLine) := by
      rw [InfoEntry.infoLines, split, Detail.opening, List.map_append, List.map_cons]
      rfl
    have unclosed : ∀ value, .tracked .declLine value ∉ Detail.opening front :=
      Detail.undeclared_opening (by simp [file])
    have closed : ∀ value, .tracked .declLine value ∉ back.map (·.2.infoLine) :=
      Detail.undeclared_infoLines (by simp [silent])
    have completed : complete? table source line
        ((Detail.opening front).foldl step scan)
        (Numeral.decimal number) (back.map (·.2.infoLine) ++ rest) =
        (declaredAt? (table.path? unit) source line entry).map fun (index, path) =>
          { unit, index, path, line, location := entry.ownLocation?.getD scan.location } := by
      rw [complete?, unit_foldl_details, named, declFile_foldl_details file, firstNumber?_decimal,
        locationBefore_details single ends, ← own, declaredAt?, InfoEntry.declared?, parts]
      simp only [Option.bind_eq_bind, Option.bind_some]
      cases table.path? unit index with
      | none => rfl
      | some path =>
          by_cases wanted : path.Same source ∧ number = line
          · simp [wanted]
          · simp [wanted]
    rw [lines, List.append_assoc, List.cons_append, find?_append unclosed, find?_declLine,
      completed, find?_append closed, List.foldl_append, List.foldl_cons]
    rfl

theorem trailingLocation?_entries {rest : List InfoLine} (ends : trailingLocation? rest = none)
    (entries : List InfoEntry) :
    trailingLocation? (entries.flatMap InfoEntry.infoLines ++ rest) = none := by
  cases entries with
  | nil => exact ends
  | cons entry entries => rfl

/-- The location in effect at the first entry that is declared there. -/
theorem find?_entries (entries : List InfoEntry) {unit : UnitName} (named : scan.unit = some unit)
    {rest : List InfoLine} (ends : trailingLocation? rest = none) :
    find? table source line scan (entries.flatMap InfoEntry.infoLines ++ rest) =
      (declarationIn? (table.path? unit) unit source line scan.location entries).or
        (find? table source line ((entries.flatMap InfoEntry.infoLines).foldl step scan) rest) := by
  induction entries generalizing scan with
  | nil => rfl
  | cons entry entries ih =>
      have header := trailingLocation?_entries ends entries
      have after := unit_foldl_infoLines entry scan
      rw [named] at after
      let declared := (declaredAt? (table.path? unit) source line entry).map fun (index, path) =>
        ({ unit, index, path, line,
           location := entry.ownLocation?.getD scan.location } : Declaration)
      let later := find? table source line
        (((entry :: entries).flatMap InfoEntry.infoLines).foldl step scan) rest
      calc find? table source line scan
            ((entry :: entries).flatMap InfoEntry.infoLines ++ rest)
          = declared.or (find? table source line (entry.infoLines.foldl step scan)
              (entries.flatMap InfoEntry.infoLines ++ rest)) := by
            rw [List.flatMap_cons, List.append_assoc, find?_entry entry named header]
        _ = declared.or ((declarationIn? (table.path? unit) unit source line
              (entry.ownLocation?.getD scan.location) entries).or later) := by
            rw [ih after, location_foldl_infoLines, ← List.foldl_append, ← List.flatMap_cons]
        _ = (declarationIn? (table.path? unit) unit source line scan.location
              (entry :: entries)).or later := by
            rw [declarationIn?_cons, Option.or_assoc]

end EntryScan

end LiveRange
