import LiveRange.Proofs.LocationList.Printed

/-! Lists in the plain layout, in which every row carries an offset of its own. They are read back
but for a base address in the row that opens a list: only later rows are searched for its mark. -/

namespace LiveRange.LocationList

inductive Entry where
  | ordinary (offset : UInt64) (range : AddressRange) (expression : Expression)
  | base (offset address : UInt64)

namespace Entry

def offset : Entry → UInt64
  | ordinary offset _ _ => offset
  | base offset _ => offset

def range? : Entry → Option AddressRange
  | ordinary _ range _ => some range
  | base _ _ => none

/-- The columns of the row. A base address stands behind the highest address of 32 bits. -/
def numbers (width : Nat) : Entry → Text × Text
  | ordinary _ range _ => (Numeral.padded width range.start, Numeral.padded width range.stop)
  | base _ address => ("ffffffff".toList, Numeral.padded width address)

def note : Entry → Text
  | ordinary _ _ expression => expression.shown
  | base _ _ => "(base address)".toList

def row (width : Nat) (entry : Entry) : Row :=
  notedRow entry.offset (entry.numbers width).1 (entry.numbers width).2 entry.note

end Entry

/-- Entries and, behind them, a closing row with an offset. -/
structure PlainList where
  entries : List Entry
  close : UInt64

namespace PlainList

/-- The offset of the first row, which is the closing one if there are no entries. -/
def start (list : PlainList) : UInt64 := (list.entries.head?.map Entry.offset).getD list.close

/-- Every row has an offset, the closing one too. -/
def offsets (list : PlainList) : List UInt64 := list.entries.map Entry.offset ++ [list.close]

def ranges (list : PlainList) : List AddressRange := list.entries.filterMap Entry.range?

def rows (width : Nat) (list : PlainList) : List Row :=
  list.entries.map (Entry.row width) ++ [closingRow list.close]

/-- What a base address makes of itself where it stands first. -/
def leadingBase (list : PlainList) : List AddressRange :=
  match list.entries with
  | .base _ address :: _ => [{ start := 0xffffffff, stop := address }]
  | _ => []

def printed (width : Nat) (lists : List PlainList) : Text :=
  Text.unlines (heading ++ (lists.flatMap (rows width)).map Row.line)

end PlainList

namespace Entry

variable (width : Nat)

theorem tabular_numbers (entry : Entry) :
    Tabular (entry.numbers width).1 ∧ Tabular (entry.numbers width).2 := by
  cases entry with
  | ordinary _ range _ => exact ⟨tabular_padded width range.start, tabular_padded width range.stop⟩
  | base _ address =>
      have mark : Tabular "ffffffff".toList := by
        rw [Tabular]
        decide
      exact ⟨mark, tabular_padded width address⟩

theorem isWord_numbers (entry : Entry) :
    (entry.numbers width).1.IsWord ∧ (entry.numbers width).2.IsWord := by
  cases entry with
  | ordinary _ range _ =>
      exact ⟨Numeral.isWord_padded width range.start, Numeral.isWord_padded width range.stop⟩
  | base _ address =>
      have mark : Text.IsWord "ffffffff".toList := by decide
      exact ⟨mark, Numeral.isWord_padded width address⟩

theorem isTrimmed_note (entry : Entry) : entry.note.IsTrimmed := by
  cases entry with
  | ordinary _ _ expression => exact expression.isTrimmed
  | base _ _ =>
      have mark : Text.IsTrimmed "(base address)".toList := by decide
      exact mark

theorem newline_notMem_note (entry : Entry) : '\n' ∉ entry.note := by
  cases entry with
  | ordinary _ _ expression => exact expression.newline_notMem_shown
  | base _ _ => exact (by decide : '\n' ∉ "(base address)".toList)

theorem ofLine?_row (entry : Entry) :
    Row.ofLine? (entry.row width).line = some (entry.row width) :=
  ofLine?_notedRow (entry.isWord_numbers width).1 (entry.isWord_numbers width).2
    entry.isTrimmed_note entry.offset

theorem isLine_row (entry : Entry) : (entry.row width).line.IsLine :=
  isLine_notedRow (entry.isWord_numbers width).1 (entry.isWord_numbers width).2
    entry.isTrimmed_note entry.newline_notMem_note entry.offset

theorem mentions_rest (entry : Entry) {mark : String} (known : mark ∈ marks) :
    Text.mentions mark (entry.row width).rest = Text.mentions mark entry.note :=
  ((entry.tabular_numbers width).1.columns (entry.tabular_numbers width).2).mentions_cons known
    entry.note

theorem unmarked_note (entry : Entry) {mark : String} (known : mark ∈ marks)
    (other : mark ≠ "(base address)") : Text.mentions mark entry.note = false := by
  cases entry with
  | ordinary _ _ expression => exact expression.unmarked mark known
  | base _ _ =>
      have silent : ∀ known ∈ marks, known ≠ "(base address)" →
          Text.mentions known "(base address)".toList = false := by decide
      exact silent mark known other

theorem closes_row (entry : Entry) : (entry.row width).closes = false := by
  have known : "<End of list>" ∈ marks := by decide
  have whole : Text.mentions "<End of list>" (entry.row width).line =
      Text.mentions "<End of list>" (entry.row width).rest :=
    mentions_ofParts known 4 8 entry.offset (entry.row width).rest
  rw [Row.closes, whole, entry.mentions_rest width known]
  exact entry.unmarked_note known (by decide)

theorem announces_row (entry : Entry) : (entry.row width).announces = false := by
  have known : "views at" ∈ marks := by decide
  rw [Row.announces, entry.mentions_rest width known]
  exact entry.unmarked_note known (by decide)

theorem opens_row (entry : Entry) (list : ListOffset) :
    (entry.row width).opens list = (entry.offset == list.value) :=
  opens_notedRow (entry.closes_row width) list

theorem leading?_row (offset : UInt64) (range : AddressRange) (expression : Expression) :
    AddressRange.leading? ((ordinary offset range expression).row width).rest = some range :=
  leading?_addresses width range expression.shown

/-- The first number of a base address is read like any other. -/
theorem leading?_row_base (offset address : UInt64) :
    AddressRange.leading? ((base offset address).row width).rest =
      some { start := 0xffffffff, stop := address } := by
  have word : Text.IsWord "ffffffff".toList := by decide
  have mark : Numeral.parse? .hexadecimal "ffffffff".toList = some 0xffffffff := by decide
  exact leading?_columns word (Numeral.isWord_padded width address) mark
    (Numeral.parse?_padded width address) "(base address)".toList

theorem range?_row (entry : Entry) : (entry.row width).range? false = entry.range? := by
  have known : "(base address)" ∈ marks := by decide
  have marked := entry.mentions_rest width known
  cases entry with
  | ordinary offset range expression =>
      have unmarked :
          Text.mentions "(base address)" (ordinary offset range expression).note = false :=
        expression.unmarked _ known
      rw [unmarked] at marked
      exact (range?_notedRow (Numeral.isWord_padded width range.start)
        (Numeral.isWord_padded width range.stop) marked).trans
          (leading?_row width offset range expression)
  | base offset address =>
      have found : Text.mentions "(base address)" "(base address)".toList = true := by decide
      rw [Row.range?, marked]
      exact if_pos found

/-- Inside an open list no row announces another, and each gives the range of its entry. -/
theorem readOn_rows (entries : List Entry) :
    readOn false (entries.map (row width)) = entries.filterMap range? := by
  have quiet : ∀ shown ∈ entries.map (row width), shown.announces = false := by
    intro shown member
    obtain ⟨entry, _, rfl⟩ := List.mem_map.mp member
    exact entry.announces_row width
  rw [readOn_of_unannounced quiet, List.filterMap_map]
  exact List.filterMap_congr fun entry _ => entry.range?_row width

end Entry

namespace PlainList

variable (width : Nat)

theorem leadingBase_eq_nil_iff (list : PlainList) : list.leadingBase = [] ↔
    ∀ offset address others, list.entries ≠ .base offset address :: others := by
  rw [leadingBase]
  constructor
  · intro nothing offset address others opening
    rw [opening] at nothing
    cases nothing
  · intro ordinary
    split
    · next offset address others opening => exact absurd opening (ordinary offset address others)
    · rfl

theorem readable_rows {list : PlainList} {row : Row} (member : row ∈ list.rows width) :
    Row.ofLine? row.line = some row ∧ row.line.IsLine := by
  rcases List.mem_append.mp member with shown | close
  · obtain ⟨entry, _, rfl⟩ := List.mem_map.mp shown
    exact ⟨entry.ofLine?_row width, entry.isLine_row width⟩
  · rw [List.mem_singleton.mp close]
    exact ⟨ofLine?_closingRow list.close, isLine_closingRow list.close⟩

theorem rows_printed (lists : List PlainList) :
    LocationList.rows (printed width lists) =
      heading.filterMap Row.ofLine? ++ lists.flatMap (rows width) := by
  have readable : ∀ row ∈ lists.flatMap (rows width),
      Row.ofLine? row.line = some row ∧ row.line.IsLine := by
    intro row member
    obtain ⟨list, _, inside⟩ := List.mem_flatMap.mp member
    exact list.readable_rows width inside
  have whole : ∀ line ∈ (lists.flatMap (rows width)).map Row.line, line.IsLine := by
    intro line member
    obtain ⟨row, inside, rfl⟩ := List.mem_map.mp member
    exact (readable row inside).2
  rw [printed, LocationList.rows_printed whole,
    filterMap_ofLine?_map fun row member => (readable row member).1]

theorem unopened_rows {lists : List PlainList} {offset : UInt64}
    (absent : ∀ list ∈ lists, ∀ entry ∈ list.entries, entry.offset ≠ offset) :
    ∀ row ∈ lists.flatMap (rows width), row.opens ⟨offset⟩ = false := by
  intro row member
  obtain ⟨list, present, inside⟩ := List.mem_flatMap.mp member
  rcases List.mem_append.mp inside with shown | close
  · obtain ⟨entry, listed, rfl⟩ := List.mem_map.mp shown
    rw [entry.opens_row width]
    exact beq_eq_false_iff_ne.mpr (absent list present entry listed)
  · rw [List.mem_singleton.mp close]
    exact Row.opens_of_closes (closes_closingRow list.close)

/-- Titles and lists that carry other offsets open nothing. -/
theorem unopened_front {lists : List PlainList} {offset : UInt64}
    (absent : ∀ list ∈ lists, ∀ entry ∈ list.entries, entry.offset ≠ offset) :
    ∀ row ∈ heading.filterMap Row.ofLine? ++ lists.flatMap (rows width),
      row.opens ⟨offset⟩ = false := by
  intro row member
  rcases List.mem_append.mp member with title | earlier
  · exact unopened_heading ⟨offset⟩ row title
  · exact unopened_rows width absent row earlier

theorem ranges_printed_nil {before after : List PlainList} {offset close : UInt64}
    (absent : ∀ other ∈ before ++ after, ∀ entry ∈ other.entries, entry.offset ≠ offset) :
    LocationList.ranges (printed width (before ++ ⟨[], close⟩ :: after)) ⟨offset⟩ = [] := by
  apply ranges_of_unopened
  intro row member
  rw [rows_printed, List.flatMap_append, List.flatMap_cons, ← List.append_assoc] at member
  rcases List.mem_append.mp member with front | back
  · exact unopened_front width
      (fun other earlier => absent other (List.mem_append_left after earlier)) row front
  · rcases List.mem_append.mp back with closing | behind
    · rw [List.mem_singleton.mp closing]
      exact Row.opens_of_closes (closes_closingRow close)
    · exact unopened_rows width
        (fun other later => absent other (List.mem_append_right before later)) row behind

theorem ranges_printed_cons {before : List PlainList} {first : Entry}
    (absent : ∀ other ∈ before, ∀ entry ∈ other.entries, entry.offset ≠ first.offset)
    (others : List Entry) (close : UInt64) (after : List PlainList) :
    LocationList.ranges (printed width (before ++ ⟨first :: others, close⟩ :: after))
        ⟨first.offset⟩ =
      (AddressRange.leading? (first.row width).rest).toList ++ others.filterMap Entry.range? := by
  have layout : LocationList.rows (printed width (before ++ ⟨first :: others, close⟩ :: after)) =
      (heading.filterMap Row.ofLine? ++ before.flatMap (rows width)) ++ first.row width ::
        (others.map (Entry.row width) ++ closingRow close :: after.flatMap (rows width)) := by
    rw [rows_printed, List.flatMap_append, List.flatMap_cons]
    simp [rows]
  have opened : (first.row width).opens ⟨first.offset⟩ = true := by
    rw [first.opens_row width]
    exact beq_self_eq_true first.offset
  have inside : ∀ row ∈ others.map (Entry.row width), row.closes = false := by
    intro row member
    obtain ⟨entry, _, rfl⟩ := List.mem_map.mp member
    exact entry.closes_row width
  rw [ranges_of_window layout (unopened_front width absent) opened inside (closes_closingRow close),
    first.announces_row width, Entry.readOn_rows width others]

/-- Lists behind one with entries may start at its offset again. -/
theorem ranges_printed_of_entries {before : List PlainList} {list : PlainList}
    (filled : list.entries ≠ [])
    (absent : ∀ other ∈ before, ∀ entry ∈ other.entries, entry.offset ≠ list.start)
    (after : List PlainList) :
    LocationList.ranges (printed width (before ++ list :: after)) ⟨list.start⟩ =
      list.leadingBase ++ list.ranges := by
  obtain ⟨entries, close⟩ := list
  cases entries with
  | nil => exact absurd rfl filled
  | cons first others =>
      have read := ranges_printed_cons width absent others close after
      cases first with
      | ordinary offset range expression =>
          rw [Entry.leading?_row width offset range expression] at read
          exact read
      | base offset address =>
          rw [Entry.leading?_row_base width offset address] at read
          exact read

theorem ranges_printed {before after : List PlainList} {list : PlainList}
    (absent : ∀ other ∈ before ++ after, ∀ entry ∈ other.entries, entry.offset ≠ list.start) :
    LocationList.ranges (printed width (before ++ list :: after)) ⟨list.start⟩ =
      list.leadingBase ++ list.ranges := by
  obtain ⟨entries, close⟩ := list
  cases entries with
  | nil => exact ranges_printed_nil width absent
  | cons first others =>
      have filled : first :: others ≠ [] := List.cons_ne_nil first others
      exact ranges_printed_of_entries width filled
        (fun other earlier => absent other (List.mem_append_left after earlier)) after

/-- A list is read exactly unless a base address stands in the row that opens it, which then counts
as a range from the mark for base addresses up to the address. -/
theorem ranges_printed_exact_iff {before after : List PlainList} {list : PlainList}
    (absent : ∀ other ∈ before ++ after, ∀ entry ∈ other.entries, entry.offset ≠ list.start) :
    LocationList.ranges (printed width (before ++ list :: after)) ⟨list.start⟩ =
        list.leadingBase ++ list.ranges ∧
      (LocationList.ranges (printed width (before ++ list :: after)) ⟨list.start⟩ = list.ranges ↔
        ∀ offset address others, list.entries ≠ .base offset address :: others) := by
  have read := ranges_printed width absent
  refine ⟨read, ?_⟩
  rw [read, List.append_left_eq_self]
  exact list.leadingBase_eq_nil_iff

def registerOne : Expression where
  text := "DW_OP_reg1 (r1)".toList
  oneLine := by decide
  unmarked := by decide

def basedList : PlainList where
  entries := [.base 0x10 0x1000, .ordinary 0x18 { start := 4, stop := 8 } registerOne]
  close := 0x24

def otherList : PlainList where
  entries := [.ordinary 0 { start := 0x10, stop := 0x18 } registerOne]
  close := 0xc

theorem absent_basedList : ∀ other ∈ [otherList] ++ [], ∀ entry ∈ other.entries,
    entry.offset ≠ basedList.start := by
  intro other member entry inside
  rw [List.append_nil, List.mem_singleton] at member
  subst member
  rw [List.mem_singleton.mp inside]
  decide

theorem ranges_printed_exact_iff_basedList :
    (∀ other ∈ [otherList] ++ [], ∀ entry ∈ other.entries, entry.offset ≠ basedList.start) ∧
      LocationList.ranges (printed 8 ([otherList] ++ basedList :: [])) ⟨basedList.start⟩ =
        basedList.leadingBase ++ basedList.ranges ∧
      (LocationList.ranges (printed 8 ([otherList] ++ basedList :: [])) ⟨basedList.start⟩ =
          basedList.ranges ↔
        ∀ offset address others, basedList.entries ≠ .base offset address :: others) :=
  ⟨absent_basedList, ranges_printed_exact_iff 8 absent_basedList⟩

/-- The list has one range, and two are read. -/
theorem leading_base_read_as_range :
    (∀ other ∈ [otherList] ++ [], ∀ entry ∈ other.entries, entry.offset ≠ basedList.start) ∧
      basedList.ranges = [{ start := 4, stop := 8 }] ∧
      LocationList.ranges (printed 8 ([otherList] ++ basedList :: [])) ⟨basedList.start⟩ =
        [{ start := 0xffffffff, stop := 0x1000 }, { start := 4, stop := 8 }] :=
  ⟨absent_basedList, rfl, ranges_printed 8 absent_basedList⟩

end PlainList

end LiveRange.LocationList
