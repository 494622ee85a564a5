import LiveRange.LocationList.Ranges
import LiveRange.Proofs.Text.Words

/-! The window of rows that an offset opens, and the ranges read on from its opening row. -/

namespace LiveRange.LocationList

def rows (dump : Text) : List Row := dump.lines.filterMap Row.ofLine?

/-- The ranges of rows inside an open list. Each row tells whether it announces the next one. -/
def readOn : Bool → List Row → List AddressRange
  | _, [] => []
  | announced, row :: rows => (row.range? announced).toList ++ readOn row.announces rows

namespace RangeScan

variable (list : ListOffset)

theorem foldl_step (lines : List Text) (scan : RangeScan) :
    lines.foldl (step list) scan = (lines.filterMap Row.ofLine?).foldl (read list) scan := by
  rw [List.foldl_filterMap]
  congr 1
  funext scan line
  rw [step]
  cases Row.ofLine? line <;> rfl

theorem read_opening {row : Row} (opened : row.opens list = true) (ranges : List AddressRange) :
    read list { phase := .seeking, ranges } row =
      { phase := .inside row.announces
        ranges := ranges ++ (AddressRange.leading? row.rest).toList } := by
  rw [read]
  exact if_pos opened

theorem read_passed {row : Row} (unopened : row.opens list = false) (ranges : List AddressRange) :
    read list { phase := .seeking, ranges } row = { phase := .seeking, ranges } := by
  rw [read]
  exact if_neg (Bool.eq_false_iff.mp unopened)

theorem read_inside {row : Row} (unclosed : row.closes = false) (announced : Bool)
    (ranges : List AddressRange) :
    read list { phase := .inside announced, ranges } row =
      { phase := .inside row.announces, ranges := ranges ++ (row.range? announced).toList } := by
  rw [read]
  exact if_neg (Bool.eq_false_iff.mp unclosed)

theorem read_closing {row : Row} (closed : row.closes = true) (announced : Bool)
    (ranges : List AddressRange) :
    read list { phase := .inside announced, ranges } row = { phase := .closed, ranges } := by
  rw [read]
  exact if_pos closed

theorem foldl_closed (rows : List Row) (ranges : List AddressRange) :
    rows.foldl (read list) { phase := .closed, ranges } = { phase := .closed, ranges } := by
  induction rows with
  | nil => rfl
  | cons row rows ih => exact ih

/-- Inside the list the rows count up to the first that closes it. -/
theorem ranges_foldl_inside (rows : List Row) (announced : Bool) (found : List AddressRange) :
    (rows.foldl (read list) { phase := .inside announced, ranges := found }).ranges =
      found ++ readOn announced (rows.takeWhile (!Row.closes ·)) := by
  induction rows generalizing announced found with
  | nil => exact (List.append_nil found).symm
  | cons row rows ih =>
      rw [List.foldl_cons, List.takeWhile_cons]
      cases closing : row.closes with
      | true =>
          rw [read_closing list closing, foldl_closed]
          exact (List.append_nil found).symm
      | false =>
          rw [read_inside list closing, ih, List.append_assoc]
          rfl

/-- Before it is open the rows are passed over up to the first that opens it. -/
theorem ranges_foldl_seeking (rows : List Row) (found : List AddressRange) :
    (rows.foldl (read list) { phase := .seeking, ranges := found }).ranges =
      found ++
        match rows.dropWhile (!Row.opens list ·) with
        | [] => []
        | opening :: later => (AddressRange.leading? opening.rest).toList ++
            readOn opening.announces (later.takeWhile (!Row.closes ·)) := by
  induction rows with
  | nil => exact (List.append_nil found).symm
  | cons row rows ih =>
      rw [List.foldl_cons, List.dropWhile_cons]
      cases opening : row.opens list with
      | true =>
          rw [read_opening list opening, ranges_foldl_inside, List.append_assoc]
          rfl
      | false =>
          rw [read_passed list opening, ih]
          rfl

end RangeScan

theorem ranges_eq_foldl (dump : Text) (list : ListOffset) :
    ranges dump list = ((rows dump).foldl (RangeScan.read list) {}).ranges := by
  rw [ranges, RangeScan.foldl_step, rows]

/-- The window of a list: from the first row that opens it up to the next one that closes a list. -/
theorem ranges_eq_window (dump : Text) (list : ListOffset) :
    ranges dump list =
      match (rows dump).dropWhile (!Row.opens list ·) with
      | [] => []
      | opening :: later => (AddressRange.leading? opening.rest).toList ++
          readOn opening.announces (later.takeWhile (!Row.closes ·)) := by
  rw [ranges_eq_foldl]
  exact RangeScan.ranges_foldl_seeking list (rows dump) []

theorem readOn_of_unannounced {rows : List Row} (quiet : ∀ row ∈ rows, row.announces = false) :
    readOn false rows = rows.filterMap (Row.range? false) := by
  induction rows with
  | nil => rfl
  | cons row rows ih =>
      have later := ih fun other member => quiet other (List.mem_cons_of_mem row member)
      rw [readOn, quiet row List.mem_cons_self, later, List.filterMap_cons]
      cases row.range? false <;> rfl

theorem ranges_of_unopened {dump : Text} {list : ListOffset}
    (unopened : ∀ row ∈ rows dump, row.opens list = false) : ranges dump list = [] := by
  have skipped : (rows dump).dropWhile (!Row.opens list ·) = [] := by
    rw [List.dropWhile_eq_nil_iff]
    intro row member
    rw [unopened row member]
    rfl
  rw [ranges_eq_window, skipped]

/-- Rows before the one that opens the list and from the one that closes it on are not read. The
last list of a dump may lack a closing row. -/
theorem ranges_of_split {dump : Text} {list : ListOffset} {earlier body later : List Row}
    {opening : Row} (layout : rows dump = earlier ++ opening :: (body ++ later))
    (unopened : ∀ row ∈ earlier, row.opens list = false) (opened : opening.opens list = true)
    (inside : ∀ row ∈ body, row.closes = false) (closed : ∀ row ∈ later.head?, row.closes = true) :
    ranges dump list =
      (AddressRange.leading? opening.rest).toList ++ readOn opening.announces body := by
  have skipped : (rows dump).dropWhile (!Row.opens list ·) = opening :: (body ++ later) := by
    rw [layout, List.dropWhile_append_of_pos fun row member => by rw [unopened row member]; rfl]
    simp [opened]
  have stops : later.takeWhile (!Row.closes ·) = [] := by
    cases later with
    | nil => rfl
    | cons closing later => simp [closed closing rfl]
  have taken : (body ++ later).takeWhile (!Row.closes ·) = body := by
    rw [List.takeWhile_append_of_pos fun row member => by rw [inside row member]; rfl, stops,
      List.append_nil]
  rw [ranges_eq_window, skipped]
  simp only
  rw [taken]

theorem ranges_of_window {dump : Text} {list : ListOffset} {earlier body later : List Row}
    {opening closing : Row}
    (layout : rows dump = earlier ++ opening :: (body ++ closing :: later))
    (unopened : ∀ row ∈ earlier, row.opens list = false) (opened : opening.opens list = true)
    (inside : ∀ row ∈ body, row.closes = false) (closed : closing.closes = true) :
    ranges dump list =
      (AddressRange.leading? opening.rest).toList ++ readOn opening.announces body := by
  refine ranges_of_split layout unopened opened inside ?_
  intro row first
  rw [List.head?_cons, Option.mem_some_iff] at first
  exact first ▸ closed

namespace Row

/-- The row of a line of which the indent, the first word and what follows it are known. -/
def ofParts (indent : Nat) (first rest : Text) : Row :=
  { line := List.replicate indent ' ' ++ first ++ ' ' :: rest, first, rest }

theorem ofLine?_ofParts {first rest : Text} (solid : first.IsWord) (trimmed : rest.IsTrimmed)
    (indent : Nat) :
    ofLine? (ofParts indent first rest).line = some (ofParts indent first rest) := by
  have fields : (ofParts indent first rest).line.fields 2 = [first, rest] := by
    rw [ofParts]
    simp only
    rw [List.append_assoc, Text.fields_append_blank 2 (Text.blank_replicate indent),
      solid.fields_cons 0 rfl, trimmed.fields_one]
  rw [ofLine?, fields]
  rfl

theorem words_ofParts {first : Text} (solid : first.IsWord) (indent : Nat) (rest : Text) :
    (ofParts indent first rest).line.words = first :: rest.words := by
  rw [ofParts]
  simp only
  rw [List.append_assoc, Text.words_append_blank (Text.blank_replicate indent),
    solid.words_cons rfl]

theorem opens_of_closes {list : ListOffset} {row : Row} (closed : row.closes = true) :
    row.opens list = false := by
  rw [opens, closed]
  rfl

end Row

end LiveRange.LocationList
