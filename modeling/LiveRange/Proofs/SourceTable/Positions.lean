import LiveRange.Proofs.SourceTable.LastRow

/-! The rows of files read by the positions of their columns. A dump is never read at a position
where a row has no field, whatever titles stand in it. -/

namespace LiveRange

/-- A position taken for one of so many fields. -/
structure OutOfBounds where
  position : Nat
  count : Nat
  deriving DecidableEq, Repr

def fieldAt (fields : List Text) (position : Nat) : Except OutOfBounds Text :=
  if inside : position < fields.length then .ok fields[position]
  else .error { position, count := fields.length }

theorem fieldAt_of_getElem? {fields : List Text} {position : Nat} {field : Text}
    (found : fields[position]? = some field) : fieldAt fields position = .ok field := by
  obtain ⟨inside, here⟩ := List.getElem?_eq_some_iff.mp found
  rw [fieldAt, dif_pos inside, here]

/-- The positions at which a row of a file is read. -/
def Columns.positions (columns : Columns) : List Nat := [0, columns.dir, columns.name]

/-- As many fields as the last column asks for have one for every column. -/
theorem Columns.Ordered.inside {columns : Columns} (ordered : columns.Ordered)
    {fields : List Text} (full : fields.length = columns.name + 1) :
    ∀ position ∈ columns.positions, position < fields.length := by
  have ⟨indexed, named⟩ := ordered
  simp only [positions, List.forall_mem_cons]
  refine ⟨?_, ?_, ?_, nofun⟩ <;> omega

theorem Columns.Ordered.exists_fields {columns : Columns} (ordered : columns.Ordered)
    {fields : List Text} (full : fields.length = columns.name + 1) :
    ∃ first second last, fields[0]? = some first ∧ fields[columns.dir]? = some second ∧
      fields[columns.name]? = some last := by
  have inside := ordered.inside full
  simp only [positions, List.forall_mem_cons] at inside
  obtain ⟨first, second, last, _⟩ := inside
  exact ⟨_, _, _, List.getElem?_eq_getElem first, List.getElem?_eq_getElem second,
    List.getElem?_eq_getElem last⟩

namespace LineScan

/-- A row of a file whose fields are counted before they are taken by their positions. -/
def fileRowByPosition (scan : LineScan) (row : Text) : Except OutOfBounds LineScan :=
  if row.trimStart.startsWith "Entry" then
    return { scan with columns := (Columns.ofHeader? row).getD scan.columns }
  else
    let fields := row.fields (scan.columns.name + 1)
    if fields.length = scan.columns.name + 1 then do
      let first ← fieldAt fields 0
      let second ← fieldAt fields scan.columns.dir
      match Numeral.parse? .decimal first, Numeral.parse? .decimal second with
      | some index, some number =>
          match scan.directories.lookup number with
          | none => return scan
          | some directory =>
              let last ← fieldAt fields scan.columns.name
              return { scan with files := (index, Path.join directory (plainName last)) :: scan.files }
      | _, _ => return scan
    else return scan

def stepByPosition (scan : LineScan) (line : Text) : Except OutOfBounds LineScan :=
  match Marker.ofLine? line, scan.region with
  | none, .files => scan.fileRowByPosition line
  | _, _ => return scan.step line

variable {scan : LineScan} (ordered : scan.columns.Ordered)

include ordered

theorem fileRowByPosition_eq (row : Text) :
    scan.fileRowByPosition row = .ok (scan.fileRow row) := by
  rw [fileRowByPosition, fileRow]
  split_ifs with titled
  · rfl
  · by_cases full : (row.fields (scan.columns.name + 1)).length = scan.columns.name + 1
    · obtain ⟨first, second, last, firstFound, secondFound, lastFound⟩ := ordered.exists_fields full
      simp only [if_pos full, Columns.fileRow?, firstFound, secondFound, lastFound,
        fieldAt_of_getElem? firstFound, fieldAt_of_getElem? secondFound,
        fieldAt_of_getElem? lastFound, bind, Except.bind, Option.bind_some]
      cases Numeral.parse? .decimal first with
      | none => rfl
      | some index =>
          cases Numeral.parse? .decimal second with
          | none => rfl
          | some number =>
              simp only [Option.bind_some, pure]
              cases scan.directories.lookup number <;> rfl
    · have unread : scan.columns.fileRow? row = none := by
        rw [Option.eq_none_iff_forall_ne_some]
        intro file read
        obtain ⟨field, lists, _⟩ :=
          (Columns.fileRow?_eq_some_iff (Bool.eq_false_iff.mpr titled)).mp read
        exact full lists.length
      simp only [if_neg full, unread]
      rfl

theorem stepByPosition_eq (line : Text) : scan.stepByPosition line = .ok (scan.step line) := by
  rw [stepByPosition]
  split
  · next plain inside =>
      rw [fileRowByPosition_eq ordered, step_files scan plain inside]
  · rfl

theorem foldlM_stepByPosition (lines : List Text) :
    lines.foldlM stepByPosition scan = .ok (lines.foldl step scan) := by
  induction lines generalizing scan with
  | nil => rfl
  | cons line lines ih =>
      rw [List.foldlM_cons, stepByPosition_eq ordered, List.foldl_cons]
      exact ih (columns_ordered_step scan ordered line)

end LineScan

namespace SourceTable

/-- Whatever titles a dump has, its reading by positions gets to every line. In the state that it is
in there, the index, the directory and the name of a file have columns of their own, in this order,
and any row whatsoever that has the fields for them has one at each. -/
theorem positions_in_bounds (dump : Text) (k : Nat) :
    ∃ scan, (dump.lines.take k).foldlM LineScan.stepByPosition {} = .ok scan ∧
      scanAt dump.lines k = scan ∧ 1 ≤ scan.columns.dir ∧ scan.columns.dir < scan.columns.name ∧
      ∀ row : Text, scan.fileRowByPosition row = .ok (scan.fileRow row) ∧
        ((row.fields (scan.columns.name + 1)).length = scan.columns.name + 1 →
          ∀ position ∈ scan.columns.positions,
            position < (row.fields (scan.columns.name + 1)).length) := by
  have fresh : (LineScan.columns {}).Ordered := Columns.ordered_default
  have ordered := LineScan.columns_ordered_foldl {} fresh (dump.lines.take k)
  have read := LineScan.foldlM_stepByPosition fresh (dump.lines.take k)
  refine ⟨_, read, rfl, ordered.indexed, ordered.named, fun row => ⟨?_, ordered.inside⟩⟩
  exact LineScan.fileRowByPosition_eq ordered row

/-- Titles that name the directory last tell no columns. -/
example : Columns.ofHeader? "Entry Name Dir".toList = none := by decide

end SourceTable

end LiveRange
