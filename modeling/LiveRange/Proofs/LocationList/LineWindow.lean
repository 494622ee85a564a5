import LiveRange.Proofs.LocationList.Window
import LiveRange.Proofs.Text.Lines
import LiveRange.Proofs.Text.Marks
import Mathlib.Order.Nat

/-! The ranges of a list told from the lines of a dump, whatever they hold: the first line that
opens the list, the next one that closes it, and the words of every line between the two. -/

namespace LiveRange

/-- The range that a word and the next one spell. -/
def AddressRange.spelled? (words : List Text) (position : Nat) : Option AddressRange := do
  let start ← words[position]?.bind (Numeral.parse? .hexadecimal)
  let stop ← words[position + 1]?.bind (Numeral.parse? .hexadecimal)
  return { start, stop }

namespace LocationList

def solidLines (dump : Text) : List Text := dump.lines.filter (·.any (!isBlank ·))

def OpensAt (lines : List Text) (list : ListOffset) (i : Nat) : Prop :=
  ∃ line ∈ lines[i]?, line.mentions "<End of list>" = false ∧
    ∃ word ∈ line.words.head?, Numeral.parse? .hexadecimal word = some list.value

def ClosesAt (lines : List Text) (j : Nat) : Prop :=
  ∃ line ∈ lines[j]?, line.mentions "<End of list>" = true

/-- The first line that opens the list is at `i`, and the next one that closes a list at `j`. A list
that nothing closes runs to the end. -/
structure IsWindow (lines : List Text) (list : ListOffset) (i j : Nat) : Prop where
  opened : OpensAt lines list i
  first : ∀ k < i, ¬ OpensAt lines list k
  behind : i < j
  closed : j = lines.length ∨ ClosesAt lines j
  inside : ∀ k < j, i < k → ¬ ClosesAt lines k

section Decidable

variable (lines : List Text) (list : ListOffset) (i j : Nat)

instance : Decidable (OpensAt lines list i) :=
  inferInstanceAs (Decidable (∃ line ∈ lines[i]?, line.mentions "<End of list>" = false ∧
    ∃ word ∈ line.words.head?, Numeral.parse? .hexadecimal word = some list.value))

instance : Decidable (ClosesAt lines j) :=
  inferInstanceAs (Decidable (∃ line ∈ lines[j]?, line.mentions "<End of list>" = true))

instance : Decidable (IsWindow lines list i j) :=
  decidable_of_iff (OpensAt lines list i ∧ (∀ k < i, ¬ OpensAt lines list k) ∧ i < j ∧
      (j = lines.length ∨ ClosesAt lines j) ∧ ∀ k < j, i < k → ¬ ClosesAt lines k)
    ⟨fun ⟨opened, first, behind, closed, inside⟩ => ⟨opened, first, behind, closed, inside⟩,
      fun window => ⟨window.opened, window.first, window.behind, window.closed, window.inside⟩⟩

end Decidable

/-- The range of a line inside an open list. The line before it may announce that it has no
offset. -/
def insideRange? (previous line : Text) : Option AddressRange :=
  if line.behindFirst.mentions "(base address)" then none
  else if line.words.length = 2 ∨ previous.behindFirst.mentions "views at" then
    AddressRange.spelled? line.words 0
  else AddressRange.spelled? line.words 1

/-- The range of each line of a window, the line that opens the list included. -/
def rangeAt? (window : List Text) : Nat → Option AddressRange
  | 0 => window[0]?.bind fun line => AddressRange.spelled? line.words 1
  | k + 1 => do insideRange? (← window[k]?) (← window[k + 1]?)

def windowRanges (window : List Text) : List AddressRange :=
  (List.range window.length).filterMap (rangeAt? window)

theorem leading?_eq_spelled? (text : Text) :
    AddressRange.leading? text = AddressRange.spelled? text.words 0 := by
  rw [AddressRange.leading?, AddressRange.spelled?]
  rcases text.words with _ | ⟨first, _ | ⟨second, others⟩⟩
  · rfl
  · cases Numeral.parse? .hexadecimal first <;> simp
  · rfl

theorem leading?_trim_behindFirst {line : Text} (solid : ¬ line.Blank) :
    AddressRange.leading? line.behindFirst.trim = AddressRange.spelled? line.words 1 := by
  rw [leading?_eq_spelled?, Text.words_trim, Text.words_of_not_blank solid]
  rfl

namespace Row

def ofSolid (line : Text) : Row where
  line := line
  first := line.trimStart.takeWhile (!isBlank ·)
  rest := line.behindFirst.trim

theorem ofLine?_of_blank {line : Text} (blank : line.Blank) : ofLine? line = none := by
  have opening : line.trimStart = [] := List.dropWhile_eq_nil_iff.mpr blank
  rw [ofLine?, Text.fields, opening]

theorem ofLine?_of_not_blank {line : Text} (solid : ¬ line.Blank) :
    ofLine? line = some (ofSolid line) := by
  cases opening : line.trimStart with
  | nil => exact absurd (List.dropWhile_eq_nil_iff.mp opening) solid
  | cons c rest =>
      have last : ∀ text : Text, (text.fields 1).headD [] = text.trim := by
        intro text
        rw [Text.fields]
        split
        · next nothing => exact nothing.symm
        · rfl
        · simp
      rw [ofLine?, Text.fields, opening]
      simp only [last]
      rw [ofSolid, Text.behindFirst, opening]

theorem opens_ofSolid {line : Text} (solid : ¬ line.Blank) (list : ListOffset) :
    (ofSolid line).opens list = true ↔ line.mentions "<End of list>" = false ∧
      ∃ word ∈ line.words.head?, Numeral.parse? .hexadecimal word = some list.value := by
  simp [opens, closes, ofSolid, Text.words_of_not_blank solid]

theorem announces_ofSolid (line : Text) :
    (ofSolid line).announces = line.behindFirst.mentions "views at" :=
  Text.mentions_trim (by decide) line.behindFirst

theorem range?_ofSolid (previous : Text) {line : Text} (solid : ¬ line.Blank) :
    (ofSolid line).range? (ofSolid previous).announces = insideRange? previous line := by
  have based : (ofSolid line).rest.mentions "(base address)" =
      line.behindFirst.mentions "(base address)" :=
    Text.mentions_trim (by decide) line.behindFirst
  have whole := leading?_eq_spelled? line
  have behind := leading?_trim_behindFirst solid
  rw [range?, insideRange?, based, announces_ofSolid, ← whole, ← behind]
  simp only [Bool.or_eq_true, beq_iff_eq, or_comm]
  rfl

end Row

theorem any_solid_iff {line : Text} : line.any (!isBlank ·) = true ↔ ¬ line.Blank := by
  simp [Text.Blank]

theorem rows_eq_map_solidLines (dump : Text) :
    rows dump = (solidLines dump).map Row.ofSolid := by
  rw [rows, solidLines]
  induction dump.lines with
  | nil => rfl
  | cons line lines ih =>
      rw [List.filter_cons]
      split_ifs with solid
      · rw [List.filterMap_cons_some (Row.ofLine?_of_not_blank (any_solid_iff.mp solid)), ih,
          List.map_cons]
      · have blank : line.Blank := not_not.mp (mt any_solid_iff.mpr solid)
        rw [List.filterMap_cons_none (Row.ofLine?_of_blank blank), ih]

/-- Behind its opening line a window is read line by line, each with the one before it. -/
theorem readOn_eq_filterMap (opening : Text) {body : List Text}
    (solid : ∀ line ∈ body, ¬ line.Blank) :
    readOn (Row.ofSolid opening).announces (body.map Row.ofSolid) =
      (List.range body.length).filterMap fun k => rangeAt? (opening :: body) (k + 1) := by
  induction body generalizing opening with
  | nil => rfl
  | cons line body ih =>
      have here := Row.range?_ofSolid opening (solid line List.mem_cons_self)
      have later := ih line fun other member => solid other (List.mem_cons_of_mem line member)
      have first : rangeAt? (opening :: line :: body) (0 + 1) = insideRange? opening line := rfl
      rw [List.map_cons, readOn, here, later, List.length_cons, List.range_succ_eq_map,
        List.filterMap_cons, first, List.filterMap_map]
      cases insideRange? opening line <;> rfl

theorem windowRanges_cons (opening : Text) {body : List Text}
    (solid : ∀ line ∈ body, ¬ line.Blank) :
    windowRanges (opening :: body) = (AddressRange.spelled? opening.words 1).toList ++
      readOn (Row.ofSolid opening).announces (body.map Row.ofSolid) := by
  have first : rangeAt? (opening :: body) 0 = AddressRange.spelled? opening.words 1 := rfl
  rw [readOn_eq_filterMap opening solid, windowRanges, List.length_cons, List.range_succ_eq_map,
    List.filterMap_cons, first, List.filterMap_map]
  cases AddressRange.spelled? opening.words 1 <;> rfl

theorem opensAt_iff {lines : List Text} {line : Text} {i : Nat} (here : lines[i]? = some line)
    (solid : ¬ line.Blank) (list : ListOffset) :
    OpensAt lines list i ↔ (Row.ofSolid line).opens list = true := by
  rw [Row.opens_ofSolid solid, OpensAt, here]
  simp

theorem closesAt_iff {lines : List Text} {line : Text} {j : Nat} (here : lines[j]? = some line) :
    ClosesAt lines j ↔ (Row.ofSolid line).closes = true := by
  rw [ClosesAt, here]
  simp [Row.closes, Row.ofSolid]

namespace IsWindow

variable {lines : List Text} {list : ListOffset} {i j : Nat}

theorem upto (window : IsWindow lines list i j) : j ≤ lines.length := by
  rcases window.closed with rfl | ⟨line, member, _⟩
  · exact le_refl _
  · exact (List.getElem?_eq_some_iff.mp member).1.le

/-- The opening line and the others of the window, between what stands before and behind it. -/
theorem layout (window : IsWindow lines list i j) :
    ∃ opening body, lines = lines.take i ++ opening :: (body ++ lines.drop j) ∧
      (lines.take j).drop i = opening :: body ∧ lines[i]? = some opening ∧
        ∀ line ∈ body, ∃ k < j, i < k ∧ lines[k]? = some line := by
  have upto := window.upto
  have behind := window.behind
  obtain ⟨opening, member, _⟩ := window.opened
  obtain ⟨inRange, here⟩ := List.getElem?_eq_some_iff.mp member
  have length : (lines.take j).length = j := List.length_take_of_le upto
  have slice : (lines.take j).drop i = opening :: (lines.take j).drop (i + 1) := by
    rw [List.drop_eq_getElem_cons (by omega), List.getElem_take, here]
  refine ⟨opening, (lines.take j).drop (i + 1), ?_, slice, member, ?_⟩
  · rw [← List.cons_append, ← slice, ← List.drop_append_of_le_length (by omega),
      List.take_append_drop, List.take_append_drop]
  · intro line inside
    obtain ⟨k, found⟩ := List.getElem?_of_mem inside
    rw [List.getElem?_drop, List.getElem?_take] at found
    split_ifs at found with short
    exact ⟨i + 1 + k, short, by omega, found⟩

end IsWindow

/-- Where a line opens the list, there is a window. -/
theorem exists_isWindow {lines : List Text} {list : ListOffset} {i : Nat}
    (opened : OpensAt lines list i) : ∃ i j, IsWindow lines list i j := by
  classical
  obtain ⟨start, openedFirst, first⟩ :
      ∃ start, OpensAt lines list start ∧ ∀ k < start, ¬ OpensAt lines list k :=
    ⟨Nat.find ⟨i, opened⟩, Nat.find_spec ⟨i, opened⟩, fun _ => Nat.find_min ⟨i, opened⟩⟩
  have ⟨line, member, _⟩ := openedFirst
  have short := (List.getElem?_eq_some_iff.mp member).1
  have ends : ∃ j, start < j ∧ (j = lines.length ∨ ClosesAt lines j) :=
    ⟨lines.length, short, Or.inl rfl⟩
  obtain ⟨behind, closed⟩ := Nat.find_spec ends
  refine ⟨start, Nat.find ends, openedFirst, first, behind, closed, ?_⟩
  intro k before later closes
  exact Nat.find_min ends before ⟨later, Or.inr closes⟩

theorem ranges_of_unopenedLines {dump : Text} {list : ListOffset}
    (unopened : ∀ i, ¬ OpensAt (solidLines dump) list i) : ranges dump list = [] := by
  apply ranges_of_unopened
  intro row member
  rw [rows_eq_map_solidLines, List.mem_map] at member
  obtain ⟨line, inside, rfl⟩ := member
  obtain ⟨i, here⟩ := List.getElem?_of_mem inside
  have solid := any_solid_iff.mp (List.mem_filter.mp inside).2
  exact Bool.eq_false_iff.mpr (mt (opensAt_iff here solid list).mpr (unopened i))

theorem IsWindow.ranges_eq {dump : Text} {list : ListOffset} {i j : Nat}
    (window : IsWindow (solidLines dump) list i j) :
    ranges dump list = windowRanges (((solidLines dump).take j).drop i) := by
  obtain ⟨opening, body, layout, slice, here, inside⟩ := window.layout
  have solid : ∀ line ∈ solidLines dump, ¬ line.Blank := fun line member =>
    any_solid_iff.mp (List.mem_filter.mp member).2
  have solidBody : ∀ line ∈ body, ¬ line.Blank := by
    intro line member
    obtain ⟨k, _, _, found⟩ := inside line member
    exact solid line (List.mem_of_getElem? found)
  have solidOpening := solid opening (List.mem_of_getElem? here)
  have rowsLayout : rows dump = ((solidLines dump).take i).map Row.ofSolid ++
      Row.ofSolid opening :: (body.map Row.ofSolid ++
        ((solidLines dump).drop j).map Row.ofSolid) := by
    rw [rows_eq_map_solidLines, ← List.map_append, ← List.map_cons, ← List.map_append, ← layout]
  have unopened : ∀ row ∈ ((solidLines dump).take i).map Row.ofSolid,
      row.opens list = false := by
    intro row member
    obtain ⟨line, earlier, rfl⟩ := List.mem_map.mp member
    obtain ⟨k, found⟩ := List.getElem?_of_mem earlier
    rw [List.getElem?_take] at found
    split_ifs at found with before
    have closed := mt (opensAt_iff found (solid line (List.mem_of_getElem? found)) list).mpr
    exact Bool.eq_false_iff.mpr (closed (window.first k before))
  have opened := (opensAt_iff here solidOpening list).mp window.opened
  have unclosed : ∀ row ∈ body.map Row.ofSolid, row.closes = false := by
    intro row member
    obtain ⟨line, present, rfl⟩ := List.mem_map.mp member
    obtain ⟨k, before, behind, found⟩ := inside line present
    exact Bool.eq_false_iff.mpr (mt (closesAt_iff found).mpr (window.inside k before behind))
  have closed : ∀ row ∈ (((solidLines dump).drop j).map Row.ofSolid).head?,
      row.closes = true := by
    intro row first
    rw [List.head?_map, List.head?_drop, Option.mem_def, Option.map_eq_some_iff] at first
    obtain ⟨line, found, rfl⟩ := first
    rcases window.closed with ended | closes
    · rw [ended, List.getElem?_length] at found
      cases found
    · exact (closesAt_iff found).mp closes
  rw [ranges_of_split rowsLayout unopened opened unclosed closed, slice,
    windowRanges_cons opening solidBody]
  exact congrArg (·.toList ++ _) (leading?_trim_behindFirst solidOpening)

theorem length_windowRanges_le (window : List Text) :
    (windowRanges window).length ≤ window.length := by
  have most := List.length_filterMap_le (rangeAt? window) (List.range window.length)
  rwa [List.length_range] at most

/-- A list has no ranges where no line opens it. Otherwise its ranges are those of the lines of its
window, in their order and at most one for each, and no other line has a part in them. -/
theorem ranges_eq_windowRanges (dump : Text) (list : ListOffset) :
    ((∀ i, ¬ OpensAt (solidLines dump) list i) ∧ ranges dump list = [] ∨
        ∃ i j, IsWindow (solidLines dump) list i j) ∧
      ∀ i j, IsWindow (solidLines dump) list i j →
        ranges dump list = windowRanges (((solidLines dump).take j).drop i) ∧
          (ranges dump list).length ≤ j - i := by
  constructor
  · by_cases opened : ∃ i, OpensAt (solidLines dump) list i
    · obtain ⟨i, opened⟩ := opened
      exact Or.inr (exists_isWindow opened)
    · have unopened := not_exists.mp opened
      exact Or.inl ⟨unopened, ranges_of_unopenedLines unopened⟩
  · intro i j window
    have most := length_windowRanges_le (((solidLines dump).take j).drop i)
    rw [List.length_drop, List.length_take_of_le window.upto, ← window.ranges_eq] at most
    exact ⟨window.ranges_eq, most⟩

/-- Between the line that opens the list and the one that closes it stand a base address, a range
without an offset, and a range announced by the line before it. -/
def irregularLines : List Text :=
  ["Contents".toList, "10 <End of list>".toList, "  10 20 28 (expr)".toList,
    "14 ffffffff 1000 (base address)".toList, "30 38".toList, "18 2 4".toList,
    "1c v0 v0 views at 8 for:".toList, [], "40 48 (expr)".toList, "(none)".toList,
    "20 <End of list>".toList, "10 1 2".toList]

theorem ranges_eq_windowRanges_irregularLines :
    IsWindow (solidLines (Text.unlines irregularLines)) ⟨0x10⟩ 2 9 ∧
      ranges (Text.unlines irregularLines) ⟨0x10⟩ =
        [{ start := 0x20, stop := 0x28 }, { start := 0x30, stop := 0x38 },
          { start := 2, stop := 4 }, { start := 0x40, stop := 0x48 }] ∧
      (ranges (Text.unlines irregularLines) ⟨0x10⟩).length ≤ 9 - 2 := by
  have window : IsWindow (solidLines (Text.unlines irregularLines)) ⟨0x10⟩ 2 9 := by
    decide +kernel
  have ⟨found, most⟩ := (ranges_eq_windowRanges (Text.unlines irregularLines) ⟨0x10⟩).2 2 9 window
  refine ⟨window, found.trans ?_, most⟩
  decide +kernel

end LocationList

end LiveRange
