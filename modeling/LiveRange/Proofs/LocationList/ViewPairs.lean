import LiveRange.Proofs.LocationList.Printed

/-! Lists in the layout with view pairs, in which the range of an entry stands on a row of its own
without an offset. The begin of such a row opens a list like an offset does, so a list is read from
the first row of an earlier list that begins at its offset, if there is one. -/

namespace LiveRange.LocationList

/-- What comes before the entries of a list. -/
inductive ViewLead where
  | blank
  | pair (offset first last : UInt64)

/-- An entry: a row that announces its range, and the row with the range. -/
structure ViewEntry where
  offset : UInt64
  first : UInt64
  last : UInt64
  pair : UInt64
  range : AddressRange
  expression : Expression

structure ViewList where
  lead : List ViewLead
  entries : List ViewEntry
  close : UInt64

/-- A view shows its number behind a letter. -/
def view (width : Nat) (number : UInt64) : Text := 'v' :: Numeral.padded (width - 1) number

namespace ViewLead

def pairRow (width : Nat) (offset first last : UInt64) : Row :=
  notedRow offset (view width first) (view width last) "location view pair".toList

def offset? : ViewLead → Option UInt64
  | blank => none
  | pair offset _ _ => some offset

def row? (width : Nat) : ViewLead → Option Row
  | blank => none
  | pair offset first last => some (pairRow width offset first last)

def line (width : Nat) (lead : ViewLead) : Text := ((lead.row? width).map Row.line).getD []

end ViewLead

namespace ViewEntry

def note (entry : ViewEntry) : Text :=
  columns "views at".toList (columns (Numeral.padded 8 entry.pair) "for:".toList)

def announcement (width : Nat) (entry : ViewEntry) : Row :=
  notedRow entry.offset (view width entry.first) (view width entry.last) entry.note

def continuation (width : Nat) (entry : ViewEntry) : Row :=
  Row.ofParts 13 (Numeral.padded width entry.range.start)
    (Numeral.padded width entry.range.stop ++ ' ' :: entry.expression.shown)

def rows (width : Nat) (entry : ViewEntry) : List Row :=
  [entry.announcement width, entry.continuation width]

end ViewEntry

namespace ViewList

def offsets (list : ViewList) : List UInt64 :=
  list.lead.filterMap ViewLead.offset? ++ list.entries.map ViewEntry.offset ++ [list.close]

def ranges (list : ViewList) : List AddressRange := list.entries.map ViewEntry.range

def rows (width : Nat) (list : ViewList) : List Row :=
  list.lead.filterMap (ViewLead.row? width) ++ list.entries.flatMap (ViewEntry.rows width) ++
    [closingRow list.close]

def lines (width : Nat) (list : ViewList) : List Text :=
  list.lead.map (ViewLead.line width) ++
    (list.entries.flatMap (ViewEntry.rows width)).map Row.line ++ [(closingRow list.close).line]

def printed (width : Nat) (lists : List ViewList) : Text :=
  Text.unlines (heading ++ lists.flatMap (lines width))

/-- The ranges behind the first entry that begins at the address. -/
def behind? (address : UInt64) (list : ViewList) : Option (List AddressRange) :=
  match list.entries.dropWhile (·.range.start ≠ address) with
  | [] => none
  | _ :: others => some (others.map ViewEntry.range)

end ViewList

/-- Characters of marks and of line ends that no row with views holds. -/
def unprinted : List Char := ['<', '(', '\n']

theorem isHexDigit_of_mem_unprinted {c : Char} (absent : c ∈ unprinted) :
    Numeral.isHexDigit c = false ∧ c ≠ ' ' ∧ c ≠ 'v' := by
  have each : ∀ c ∈ unprinted, Numeral.isHexDigit c = false ∧ c ≠ ' ' ∧ c ≠ 'v' := by decide
  exact each c absent

theorem isWord_view (width : Nat) (number : UInt64) : (view width number).IsWord := by
  refine ⟨List.cons_ne_nil _ _, ?_⟩
  intro c member
  rcases List.mem_cons.mp member with rfl | digit
  · rfl
  · exact (Numeral.isWord_padded (width - 1) number).2 c digit

theorem notMem_view {c : Char} (other : Numeral.isHexDigit c = false) (differ : c ≠ 'v')
    (width : Nat) (number : UInt64) : c ∉ view width number := by
  intro member
  rcases List.mem_cons.mp member with same | digit
  · exact differ same
  · exact Numeral.notMem_padded other (width - 1) number digit

/-- A view is no number, so no addresses are read off it. -/
theorem leading?_view (width : Nat) (first last : UInt64) (rest : Text) :
    AddressRange.leading? (columns (view width first) (view width last) ++ ' ' :: rest) = none := by
  have letter : Numeral.isHexDigit 'v' = false := by decide
  have unread : Numeral.parse? .hexadecimal (view width first) = none :=
    Numeral.parse?_hexadecimal_cons letter (isWord_view width first)
  rw [AddressRange.leading?, words_columns (isWord_view width first) (isWord_view width last)]
  simp only [unread]
  rfl

namespace ViewLead

variable (width : Nat) (offset first last : UInt64)

theorem isTrimmed_location : Text.IsTrimmed "location view pair".toList := by decide

theorem ofLine?_pairRow : Row.ofLine? (pairRow width offset first last).line =
    some (pairRow width offset first last) :=
  ofLine?_notedRow (isWord_view width first) (isWord_view width last) isTrimmed_location offset

theorem isLine_pairRow : (pairRow width offset first last).line.IsLine :=
  isLine_notedRow (isWord_view width first) (isWord_view width last) isTrimmed_location
    (by decide) offset

theorem unopened_pairRow {offset address : UInt64} (differ : offset ≠ address) :
    (pairRow width offset first last).opens ⟨address⟩ = false := by
  have number : Numeral.parse? .hexadecimal (pairRow width offset first last).first = some offset :=
    Numeral.parse?_padded 8 offset
  rw [Row.opens, number]
  simp [differ]

theorem isLine_line (lead : ViewLead) : (lead.line width).IsLine := by
  cases lead with
  | blank => exact ⟨by simp [line, row?], by simp [line, row?]⟩
  | pair offset first last => exact isLine_pairRow width offset first last

theorem ofLine?_line (lead : ViewLead) : Row.ofLine? (lead.line width) = lead.row? width := by
  cases lead with
  | blank => rfl
  | pair offset first last => exact ofLine?_pairRow width offset first last

theorem unopened_rows {lead : List ViewLead} {address : UInt64}
    (absent : address ∉ lead.filterMap offset?) :
    ∀ row ∈ lead.filterMap (row? width), row.opens ⟨address⟩ = false := by
  intro row member
  obtain ⟨before, listed, shown⟩ := List.mem_filterMap.mp member
  cases before with
  | blank => cases shown
  | pair offset first last =>
      cases shown
      have differ : offset ≠ address := by
        rintro rfl
        exact absent (List.mem_filterMap.mpr ⟨_, listed, rfl⟩)
      exact unopened_pairRow width first last differ

end ViewLead

namespace ViewEntry

variable (width : Nat) (entry : ViewEntry)

theorem isTrimmed_note : entry.note.IsTrimmed := by
  have front : Text.IsTrimmed "views at".toList := by decide
  have back : Text.IsTrimmed "for:".toList := by decide
  exact isTrimmed_cons front (isTrimmed_cons (Numeral.isWord_padded 8 entry.pair).isTrimmed back)

theorem notMem_note {c : Char} (absent : c ∈ unprinted) : c ∉ entry.note := by
  have texts : ∀ c ∈ unprinted, c ∉ "views at".toList ∧ c ∉ "for:".toList := by decide
  obtain ⟨other, blank, _⟩ := isHexDigit_of_mem_unprinted absent
  obtain ⟨front, back⟩ := texts c absent
  have digits := Numeral.notMem_padded other 8 entry.pair
  intro member
  simp only [note, columns, List.mem_append, List.mem_cons, front, digits, blank, back,
    or_self] at member

theorem notMem_announcement {c : Char} (absent : c ∈ unprinted) :
    c ∉ (entry.announcement width).rest := by
  obtain ⟨other, blank, letter⟩ := isHexDigit_of_mem_unprinted absent
  have front := notMem_view other letter width entry.first
  have back := notMem_view other letter width entry.last
  have behind := entry.notMem_note absent
  simp [announcement, notedRow, Row.ofParts, columns, front, back, behind, blank]

theorem ofLine?_announcement :
    Row.ofLine? (entry.announcement width).line = some (entry.announcement width) :=
  ofLine?_notedRow (isWord_view width entry.first) (isWord_view width entry.last)
    entry.isTrimmed_note entry.offset

theorem isLine_announcement : (entry.announcement width).line.IsLine := by
  have newline : '\n' ∈ unprinted := by decide
  exact isLine_notedRow (isWord_view width entry.first) (isWord_view width entry.last)
    entry.isTrimmed_note (entry.notMem_note newline) entry.offset

theorem closes_announcement : (entry.announcement width).closes = false := by
  have known : "<End of list>" ∈ marks := by decide
  have whole : Text.mentions "<End of list>" (entry.announcement width).line =
      Text.mentions "<End of list>" (entry.announcement width).rest :=
    mentions_ofParts known 4 8 entry.offset (entry.announcement width).rest
  have absent : '<' ∈ unprinted := by decide
  rw [Row.closes, whole]
  exact Text.mentions_of_notMem rfl (entry.notMem_announcement width absent)

theorem announces_announcement : (entry.announcement width).announces = true := by
  have found := Text.mentions_append_self "views at"
    (columns (view width entry.first) (view width entry.last) ++ [' '])
    (' ' :: columns (Numeral.padded 8 entry.pair) "for:".toList)
  rw [List.append_assoc, List.append_assoc] at found
  exact found

theorem leading?_announcement : AddressRange.leading? (entry.announcement width).rest = none :=
  leading?_view width entry.first entry.last entry.note

theorem opens_announcement (address : UInt64) :
    (entry.announcement width).opens ⟨address⟩ = (entry.offset == address) :=
  opens_notedRow (entry.closes_announcement width) ⟨address⟩

theorem range?_announcement : (entry.announcement width).range? false = none := by
  have absent : '(' ∈ unprinted := by decide
  have unmarked : (entry.announcement width).rest.mentions "(base address)" = false :=
    Text.mentions_of_notMem rfl (entry.notMem_announcement width absent)
  exact (range?_notedRow (isWord_view width entry.first) (isWord_view width entry.last)
    unmarked).trans (entry.leading?_announcement width)

theorem ofLine?_continuation :
    Row.ofLine? (entry.continuation width).line = some (entry.continuation width) :=
  Row.ofLine?_ofParts (Numeral.isWord_padded width entry.range.start)
    (isTrimmed_cons (Numeral.isWord_padded width entry.range.stop).isTrimmed
      entry.expression.isTrimmed) 13

theorem isLine_continuation : (entry.continuation width).line.IsLine := by
  have trimmed := isTrimmed_cons (Numeral.isWord_padded width entry.range.stop).isTrimmed
    entry.expression.isTrimmed
  have front := (tabular_padded width entry.range.stop).oneLine
  have single : '\n' ∉ Numeral.padded width entry.range.stop ++ ' ' :: entry.expression.shown := by
    simp [front, entry.expression.newline_notMem_shown]
  exact isLine_ofParts (Numeral.isWord_padded width entry.range.start) trimmed single 13

theorem mentions_continuation {mark : String} (known : mark ∈ marks) :
    Text.mentions mark (entry.continuation width).rest = false :=
  ((tabular_padded width entry.range.stop).mentions_cons known entry.expression.shown).trans
    (entry.expression.unmarked mark known)

theorem closes_continuation : (entry.continuation width).closes = false := by
  have known : "<End of list>" ∈ marks := by decide
  have whole : Text.mentions "<End of list>" (entry.continuation width).line =
      Text.mentions "<End of list>" (entry.continuation width).rest :=
    mentions_ofParts known 13 width entry.range.start (entry.continuation width).rest
  rw [Row.closes, whole, entry.mentions_continuation width known]

theorem announces_continuation : (entry.continuation width).announces = false :=
  entry.mentions_continuation width (by decide)

/-- The begin address stands where other rows have their offset. -/
theorem opens_continuation (address : UInt64) :
    (entry.continuation width).opens ⟨address⟩ = (entry.range.start == address) := by
  have number : Numeral.parse? .hexadecimal (entry.continuation width).first =
      some entry.range.start := Numeral.parse?_padded width entry.range.start
  rw [Row.opens, entry.closes_continuation width, number]
  rfl

/-- Behind its begin address, a continuation shows one number and an expression. -/
theorem leading?_continuation : AddressRange.leading? (entry.continuation width).rest = none := by
  obtain ⟨word, others, words, solid⟩ := Text.words_cons_solid (c := '(') rfl
    (entry.expression.text ++ [')'])
  have unread := Numeral.parse?_hexadecimal_cons (by decide) solid
  have shown : (entry.continuation width).rest.words =
      Numeral.padded width entry.range.stop :: ('(' :: word) :: others := by
    rw [← words]
    exact (Numeral.isWord_padded width entry.range.stop).words_cons rfl _
  rw [AddressRange.leading?, shown]
  simp only [unread, Numeral.parse?_padded]
  rfl

theorem range?_continuation : (entry.continuation width).range? true = some entry.range := by
  have unmarked : (entry.continuation width).rest.mentions "(base address)" = false :=
    entry.mentions_continuation width (by decide)
  have words : (entry.continuation width).line.words =
      (addresses width entry.range ++ ' ' :: entry.expression.shown).words := by
    rw [continuation, Row.words_ofParts (Numeral.isWord_padded width entry.range.start), addresses,
      words_columns (Numeral.isWord_padded width entry.range.start)
        (Numeral.isWord_padded width entry.range.stop),
      (Numeral.isWord_padded width entry.range.stop).words_cons rfl]
  have read : AddressRange.leading? (entry.continuation width).line = some entry.range := by
    rw [AddressRange.leading?, words]
    exact leading?_addresses width entry.range entry.expression.shown
  rw [Row.range?, unmarked, if_neg (by decide)]
  exact read

theorem forall_mem_rows {entries : List ViewEntry} {property : Row → Prop}
    (announced : ∀ entry ∈ entries, property (entry.announcement width))
    (continued : ∀ entry ∈ entries, property (entry.continuation width)) :
    ∀ row ∈ entries.flatMap (rows width), property row := by
  intro row member
  obtain ⟨entry, listed, inside⟩ := List.mem_flatMap.mp member
  rw [rows, List.mem_cons, List.mem_singleton] at inside
  rcases inside with rfl | rfl
  · exact announced entry listed
  · exact continued entry listed

/-- Each announcement is followed by its range, so all ranges are read and nothing else. -/
theorem readOn_rows (entries : List ViewEntry) :
    readOn false (entries.flatMap (rows width)) = entries.map range := by
  induction entries with
  | nil => rfl
  | cons entry others ih =>
      rw [List.flatMap_cons, rows, List.cons_append, List.cons_append, List.nil_append, readOn,
        entry.range?_announcement width, entry.announces_announcement width, readOn,
        entry.range?_continuation width, entry.announces_continuation width, ih]
      rfl

theorem unopened_rows {entries : List ViewEntry} {address : UInt64}
    (offsets : ∀ entry ∈ entries, entry.offset ≠ address)
    (starts : ∀ entry ∈ entries, entry.range.start ≠ address) :
    ∀ row ∈ entries.flatMap (rows width), row.opens ⟨address⟩ = false := by
  apply forall_mem_rows
  · intro entry listed
    rw [entry.opens_announcement width]
    exact beq_eq_false_iff_ne.mpr (offsets entry listed)
  · intro entry listed
    rw [entry.opens_continuation width]
    exact beq_eq_false_iff_ne.mpr (starts entry listed)

theorem closes_rows (entries : List ViewEntry) :
    ∀ row ∈ entries.flatMap (rows width), row.closes = false := by
  apply forall_mem_rows
  · exact fun entry _ => entry.closes_announcement width
  · exact fun entry _ => entry.closes_continuation width

theorem readable_rows (entries : List ViewEntry) :
    ∀ row ∈ entries.flatMap (rows width),
      Row.ofLine? row.line = some row ∧ row.line.IsLine := by
  apply forall_mem_rows
  · exact fun entry _ => ⟨entry.ofLine?_announcement width, entry.isLine_announcement width⟩
  · exact fun entry _ => ⟨entry.ofLine?_continuation width, entry.isLine_continuation width⟩

end ViewEntry

namespace ViewList

variable (width : Nat)

theorem isLine_of_mem_lines {list : ViewList} {line : Text} (member : line ∈ list.lines width) :
    line.IsLine := by
  rw [lines, List.mem_append, List.mem_append] at member
  rcases member with (lead | shown) | close
  · obtain ⟨before, _, rfl⟩ := List.mem_map.mp lead
    exact before.isLine_line width
  · obtain ⟨row, listed, rfl⟩ := List.mem_map.mp shown
    exact (ViewEntry.readable_rows width list.entries row listed).2
  · rw [List.mem_singleton.mp close]
    exact isLine_closingRow list.close

theorem filterMap_lines (list : ViewList) :
    (list.lines width).filterMap Row.ofLine? = list.rows width := by
  have readable : ∀ row ∈ list.entries.flatMap (ViewEntry.rows width),
      Row.ofLine? row.line = some row :=
    fun row member => (ViewEntry.readable_rows width list.entries row member).1
  have lead : (list.lead.map (ViewLead.line width)).filterMap Row.ofLine? =
      list.lead.filterMap (ViewLead.row? width) := by
    rw [List.filterMap_map]
    exact List.filterMap_congr fun before _ => before.ofLine?_line width
  have close : [(closingRow list.close).line].filterMap Row.ofLine? = [closingRow list.close] :=
    List.filterMap_cons_some (ofLine?_closingRow list.close)
  rw [lines, rows, List.filterMap_append, List.filterMap_append, lead,
    filterMap_ofLine?_map readable, close]

theorem rows_printed (lists : List ViewList) :
    LocationList.rows (printed width lists) =
      heading.filterMap Row.ofLine? ++ lists.flatMap (rows width) := by
  have whole : ∀ line ∈ lists.flatMap (lines width), line.IsLine := by
    intro line member
    obtain ⟨list, _, inside⟩ := List.mem_flatMap.mp member
    exact isLine_of_mem_lines width inside
  rw [printed, LocationList.rows_printed whole, List.filterMap_flatMap]
  simp only [filterMap_lines]

theorem behind?_eq_none {list : ViewList} {address : UInt64}
    (nothing : list.behind? address = none) :
    ∀ entry ∈ list.entries, entry.range.start ≠ address := by
  intro entry listed begins
  rw [behind?] at nothing
  split at nothing
  · next passed =>
      have differs := List.dropWhile_eq_nil_iff.mp passed entry listed
      simp [begins] at differs
  · cases nothing

/-- Where something stands behind an address, the entries before it begin elsewhere. -/
theorem behind?_eq_some {list : ViewList} {address : UInt64} {stray : List AddressRange}
    (found : list.behind? address = some stray) :
    ∃ passed entry others, list.entries = passed ++ entry :: others ∧
      (∀ other ∈ passed, other.range.start ≠ address) ∧ entry.range.start = address ∧
      others.map ViewEntry.range = stray := by
  rw [behind?] at found
  split at found
  · cases found
  · next entry others left =>
      have split := List.takeWhile_append_dropWhile
        (p := fun entry : ViewEntry => decide (entry.range.start ≠ address)) (l := list.entries)
      rw [left] at split
      have begins := List.head?_dropWhile_not
        (fun entry : ViewEntry => decide (entry.range.start ≠ address)) list.entries
      rw [left] at begins
      refine ⟨_, entry, others, split.symm, ?_, ?_, Option.some.inj found⟩
      · intro other before
        have elsewhere := List.mem_takeWhile_imp before
        simpa using elsewhere
      · simpa using begins

theorem unopened_lists {lists : List ViewList} {address : UInt64}
    (absent : address ∉ lists.flatMap offsets)
    (nothing : ∀ list ∈ lists, list.behind? address = none) :
    ∀ row ∈ lists.flatMap (rows width), row.opens ⟨address⟩ = false := by
  intro row member
  obtain ⟨list, present, inside⟩ := List.mem_flatMap.mp member
  have others : address ∉ list.offsets := fun offset =>
    absent (List.mem_flatMap.mpr ⟨list, present, offset⟩)
  rw [offsets, List.mem_append, List.mem_append, not_or, not_or] at others
  rw [rows, List.mem_append, List.mem_append] at inside
  rcases inside with (lead | shown) | close
  · exact ViewLead.unopened_rows width others.1.1 row lead
  · have offsets : ∀ entry ∈ list.entries, entry.offset ≠ address := by
      rintro entry listed rfl
      exact others.1.2 (List.mem_map_of_mem listed)
    exact ViewEntry.unopened_rows width offsets (behind?_eq_none (nothing list present)) row shown
  · rw [List.mem_singleton.mp close]
    exact Row.opens_of_closes (closes_closingRow list.close)

/-- Titles, lists without an entry at the address and the lead of a list open nothing. -/
theorem unopened_front {lists : List ViewList} {lead : List ViewLead} {address : UInt64}
    (absent : address ∉ lists.flatMap offsets)
    (nothing : ∀ list ∈ lists, list.behind? address = none)
    (absentLead : address ∉ lead.filterMap ViewLead.offset?) :
    ∀ row ∈ heading.filterMap Row.ofLine? ++ lists.flatMap (rows width) ++
        lead.filterMap (ViewLead.row? width), row.opens ⟨address⟩ = false := by
  intro row member
  rw [List.mem_append, List.mem_append] at member
  rcases member with (title | earlier) | leading
  · exact unopened_heading ⟨address⟩ row title
  · exact unopened_lists width absent nothing row earlier
  · exact ViewLead.unopened_rows width absentLead row leading

/-- Rows behind an entry that begins at the address are read up to the end of its list. -/
theorem ranges_printed_stray {earlier later : List ViewList} {list : ViewList} {address : UInt64}
    {stray : List AddressRange} (absent : address ∉ (earlier ++ [list]).flatMap offsets)
    (nothing : ∀ other ∈ earlier, other.behind? address = none)
    (found : list.behind? address = some stray) :
    LocationList.ranges (printed width (earlier ++ list :: later)) ⟨address⟩ = stray := by
  rw [List.flatMap_append, List.flatMap_singleton, List.mem_append, not_or, offsets,
    List.mem_append, List.mem_append, not_or, not_or] at absent
  obtain ⟨passed, entry, others, split, elsewhere, begins, rfl⟩ := behind?_eq_some found
  have layout : LocationList.rows (printed width (earlier ++ list :: later)) =
      (heading.filterMap Row.ofLine? ++ earlier.flatMap (rows width) ++
        list.lead.filterMap (ViewLead.row? width) ++
        (passed.flatMap (ViewEntry.rows width) ++ [entry.announcement width])) ++
      entry.continuation width :: (others.flatMap (ViewEntry.rows width) ++
        closingRow list.close :: later.flatMap (rows width)) := by
    rw [rows_printed, List.flatMap_append, List.flatMap_cons, rows, split]
    simp [ViewEntry.rows]
  have offsets : ∀ other ∈ list.entries, other.offset ≠ address := by
    rintro other listed rfl
    exact absent.2.1.2 (List.mem_map_of_mem listed)
  have here : ∀ other ∈ passed ++ [entry], other.offset ≠ address := by
    intro other member
    apply offsets
    rw [split, ← List.singleton_append, ← List.append_assoc]
    exact List.mem_append_left others member
  have unopened : ∀ row ∈ heading.filterMap Row.ofLine? ++ earlier.flatMap (rows width) ++
      list.lead.filterMap (ViewLead.row? width) ++
      (passed.flatMap (ViewEntry.rows width) ++ [entry.announcement width]),
      row.opens ⟨address⟩ = false := by
    intro row member
    rcases List.mem_append.mp member with front | inside
    · exact unopened_front width absent.1 nothing absent.2.1.1 row front
    · rcases List.mem_append.mp inside with before | announced
      · have front : ∀ other ∈ passed, other.offset ≠ address := fun other member =>
          here other (List.mem_append_left [entry] member)
        exact ViewEntry.unopened_rows width front elsewhere row before
      · rw [List.mem_singleton.mp announced, entry.opens_announcement width]
        exact beq_eq_false_iff_ne.mpr (here entry (List.mem_append_right passed List.mem_cons_self))
  have opened : (entry.continuation width).opens ⟨address⟩ = true := by
    rw [entry.opens_continuation width, begins]
    exact beq_self_eq_true address
  rw [ranges_of_window layout unopened opened (ViewEntry.closes_rows width others)
    (closes_closingRow list.close), entry.leading?_continuation width,
    entry.announces_continuation width, ViewEntry.readOn_rows width others]
  rfl

/-- The announcement of the first entry opens the list where nothing before it does. -/
theorem ranges_printed_own {before after : List ViewList} {list : ViewList} {first : ViewEntry}
    {others : List ViewEntry} (opening : list.entries = first :: others)
    (absent : first.offset ∉ before.flatMap offsets)
    (absentLead : first.offset ∉ list.lead.filterMap ViewLead.offset?)
    (nothing : ∀ other ∈ before, other.behind? first.offset = none) :
    LocationList.ranges (printed width (before ++ list :: after)) ⟨first.offset⟩ = list.ranges := by
  have layout : LocationList.rows (printed width (before ++ list :: after)) =
      (heading.filterMap Row.ofLine? ++ before.flatMap (rows width) ++
        list.lead.filterMap (ViewLead.row? width)) ++
      first.announcement width :: ((first.continuation width ::
        others.flatMap (ViewEntry.rows width)) ++
        closingRow list.close :: after.flatMap (rows width)) := by
    rw [rows_printed, List.flatMap_append, List.flatMap_cons, rows, opening]
    simp [ViewEntry.rows]
  have opened : (first.announcement width).opens ⟨first.offset⟩ = true := by
    rw [first.opens_announcement width]
    exact beq_self_eq_true first.offset
  have inside : ∀ row ∈ first.continuation width :: others.flatMap (ViewEntry.rows width),
      row.closes = false := by
    intro row member
    rcases List.mem_cons.mp member with rfl | later
    · exact first.closes_continuation width
    · exact ViewEntry.closes_rows width others row later
  rw [ranges_of_window layout (unopened_front width absent nothing absentLead) opened inside
    (closes_closingRow list.close), first.leading?_announcement width,
    first.announces_announcement width, readOn, first.range?_continuation width,
    first.announces_continuation width, ViewEntry.readOn_rows width others, ranges, opening]
  rfl

/-- A list is read exactly unless an earlier entry begins at its offset and something else stands
behind that entry. -/
theorem ranges_printed_eq_ranges_iff {before after : List ViewList} {list : ViewList}
    {first : ViewEntry} {others : List ViewEntry} (opening : list.entries = first :: others)
    (distinct : ((before ++ list :: after).flatMap offsets).Nodup) :
    LocationList.ranges (printed width (before ++ list :: after)) ⟨first.offset⟩ =
        (before.findSome? (behind? first.offset)).getD list.ranges ∧
      (LocationList.ranges (printed width (before ++ list :: after)) ⟨first.offset⟩ = list.ranges ↔
        ∀ stray ∈ before.findSome? (behind? first.offset), stray = list.ranges) := by
  rw [List.flatMap_append, List.flatMap_cons, ← List.append_assoc] at distinct
  have known := (List.nodup_append.mp distinct).1
  have own : first.offset ∈ list.offsets := by
    simp [offsets, opening]
  have absent : first.offset ∉ before.flatMap offsets := fun member =>
    (List.nodup_append.mp known).2.2 first.offset member first.offset own rfl
  have absentLead : first.offset ∉ list.lead.filterMap ViewLead.offset? := by
    have inside := (List.nodup_append.mp known).2.1
    rw [offsets, opening, List.append_assoc] at inside
    intro member
    exact (List.nodup_append.mp inside).2.2 first.offset member first.offset (by simp) rfl
  have read : LocationList.ranges (printed width (before ++ list :: after)) ⟨first.offset⟩ =
      (before.findSome? (behind? first.offset)).getD list.ranges := by
    cases found : before.findSome? (behind? first.offset) with
    | none =>
        rw [List.findSome?_eq_none_iff] at found
        exact ranges_printed_own width opening absent absentLead found
    | some stray =>
        obtain ⟨earlier, other, between, rfl, behind, nothing⟩ :=
          List.findSome?_eq_some_iff.mp found
        rw [List.append_assoc, List.cons_append]
        refine ranges_printed_stray width ?_ nothing behind
        intro member
        apply absent
        rw [← List.singleton_append, ← List.append_assoc, List.flatMap_append]
        exact List.mem_append_left _ member
  refine ⟨read, ?_⟩
  rw [read]
  cases before.findSome? (behind? first.offset) with
  | none => simp
  | some stray => simp

def registerZero : Expression where
  text := "DW_OP_reg0 (r0)".toList
  oneLine := by decide
  unmarked := by decide

/-- The only entry begins where the next list stands in its section. -/
def strayList : ViewList where
  lead := [.blank, .pair 0 0 0, .blank]
  entries := [⟨0x2, 0, 0, 0, { start := 0x20, stop := 0x30 }, registerZero⟩]
  close := 0x10

def hiddenEntry : ViewEntry := ⟨0x20, 0, 0, 0x18, { start := 0x100, stop := 0x110 }, registerZero⟩

def hiddenList : ViewList where
  lead := [.pair 0x18 0 0, .blank]
  entries := [hiddenEntry]
  close := 0x2e

theorem distinct_hiddenList : (([strayList] ++ hiddenList :: []).flatMap offsets).Nodup := by
  decide

theorem ranges_printed_eq_ranges_iff_hiddenList :
    hiddenList.entries = hiddenEntry :: [] ∧
      (([strayList] ++ hiddenList :: []).flatMap offsets).Nodup ∧
      LocationList.ranges (printed 16 ([strayList] ++ hiddenList :: [])) ⟨hiddenEntry.offset⟩ =
        ([strayList].findSome? (behind? hiddenEntry.offset)).getD hiddenList.ranges ∧
      (LocationList.ranges (printed 16 ([strayList] ++ hiddenList :: [])) ⟨hiddenEntry.offset⟩ =
          hiddenList.ranges ↔
        ∀ stray ∈ [strayList].findSome? (behind? hiddenEntry.offset), stray = hiddenList.ranges) :=
  ⟨rfl, distinct_hiddenList, ranges_printed_eq_ranges_iff 16 rfl distinct_hiddenList⟩

/-- The list has one range, and none is read. -/
theorem continuation_read_as_opening :
    hiddenList.entries = hiddenEntry :: [] ∧
      (([strayList] ++ hiddenList :: []).flatMap offsets).Nodup ∧
      hiddenList.ranges = [{ start := 0x100, stop := 0x110 }] ∧
      LocationList.ranges (printed 16 ([strayList] ++ hiddenList :: [])) ⟨hiddenEntry.offset⟩ =
        [] := by
  have absent : hiddenEntry.offset ∉ ([] ++ [strayList]).flatMap offsets := by decide
  have behind : strayList.behind? hiddenEntry.offset = some [] := by decide
  have read : LocationList.ranges (printed 16 ([] ++ strayList :: [hiddenList]))
      ⟨hiddenEntry.offset⟩ = [] :=
    ranges_printed_stray 16 absent (fun _ member => nomatch member) behind
  exact ⟨rfl, distinct_hiddenList, rfl, read⟩

end ViewList

end LiveRange.LocationList
