import LiveRange.Proofs.LocationList.PlainLayout

/-! Several lists may start at one offset. The first that has entries is read, since the closing row
of an empty list opens nothing. -/

namespace LiveRange.LocationList.PlainList

/-- The list starts there and has entries. -/
def opensAt (offset : UInt64) (list : PlainList) : Bool :=
  list.start == offset && !list.entries.isEmpty

variable {offset : UInt64}

theorem opensAt_iff {list : PlainList} :
    list.opensAt offset = true ↔ list.start = offset ∧ list.entries ≠ [] := by
  simp [opensAt]

/-- Where only first rows may have the offset, a list that does not open at it has it nowhere. -/
theorem absent_of_not_opensAt {list : PlainList} (unshared : offset ∉ list.offsets.tail)
    (unopened : ¬ list.opensAt offset = true) : ∀ entry ∈ list.entries, entry.offset ≠ offset := by
  obtain ⟨entries, close⟩ := list
  cases entries with
  | nil =>
      intro entry member
      cases member
  | cons first others =>
      have start : first.offset ≠ offset := by
        intro same
        exact unopened (opensAt_iff.mpr ⟨same, List.cons_ne_nil first others⟩)
      intro entry member
      rcases List.mem_cons.mp member with rfl | later
      · exact start
      · rintro rfl
        exact unshared (List.mem_append_left [close] (List.mem_map_of_mem later))

theorem ranges_eq_nil_iff {list : PlainList} (unbased : list.leadingBase = []) :
    list.ranges = [] ↔ list.entries = [] := by
  obtain ⟨entries, close⟩ := list
  rcases entries with _ | ⟨_ | _, others⟩
  case nil => simp [ranges]
  case cons.ordinary => simp [ranges, Entry.range?]
  case cons.base => cases unbased

section Reused

variable (width : Nat) {lists : List PlainList}
  (unbased : ∀ list ∈ lists, list.leadingBase = [])
  (unshared : ∀ list ∈ lists, offset ∉ list.offsets.tail)

include unbased unshared

theorem ranges_printed_eq_find? :
    LocationList.ranges (printed width lists) ⟨offset⟩ =
      ((lists.find? (opensAt offset)).map ranges).getD [] := by
  cases found : lists.find? (opensAt offset) with
  | none =>
      have absent : ∀ list ∈ lists, ∀ entry ∈ list.entries, entry.offset ≠ offset :=
        fun list member =>
          absent_of_not_opensAt (unshared list member) (List.find?_eq_none.mp found list member)
      apply ranges_of_unopened
      rw [rows_printed]
      exact unopened_front width absent
  | some list =>
      obtain ⟨opens, before, after, rfl, earlier⟩ := List.find?_eq_some_iff_append.mp found
      obtain ⟨rfl, filled⟩ := opensAt_iff.mp opens
      have absent : ∀ other ∈ before, ∀ entry ∈ other.entries, entry.offset ≠ list.start := by
        intro other member
        have unopened : ¬ other.opensAt list.start = true := by simpa using earlier other member
        exact absent_of_not_opensAt (unshared other (List.mem_append_left _ member)) unopened
      have plain := unbased list (List.mem_append_right before List.mem_cons_self)
      rw [ranges_printed_of_entries width filled absent after, plain]
      rfl

/-- The first list with entries decides. So the first list of all is read exactly if it has entries
or every list that starts at the offset is empty. -/
theorem ranges_printed_eq_first_iff {first : PlainList}
    (starts : lists.find? (·.start == offset) = some first) :
    LocationList.ranges (printed width lists) ⟨offset⟩ =
        ((lists.find? (opensAt offset)).map ranges).getD [] ∧
      (LocationList.ranges (printed width lists) ⟨offset⟩ = first.ranges ↔
        first.entries ≠ [] ∨ ∀ list ∈ lists, list.start = offset → list.entries = []) := by
  have read := ranges_printed_eq_find? width unbased unshared
  refine ⟨read, ?_⟩
  obtain ⟨start, before, after, layout, earlier⟩ := List.find?_eq_some_iff_append.mp starts
  have member : first ∈ lists := List.mem_of_find?_eq_some starts
  by_cases filled : first.entries = []
  · have nothing : first.ranges = [] := (ranges_eq_nil_iff (unbased first member)).mpr filled
    rw [read, nothing]
    simp only [ne_eq, filled, not_true_eq_false, false_or]
    cases found : lists.find? (opensAt offset) with
    | none =>
        have empty : ∀ list ∈ lists, list.start = offset → list.entries = [] := by
          intro list present same
          by_contra entries
          exact List.find?_eq_none.mp found list present (opensAt_iff.mpr ⟨same, entries⟩)
        exact iff_of_true rfl empty
    | some list =>
        obtain ⟨same, entries⟩ := opensAt_iff.mp (List.find?_some found)
        have present := List.mem_of_find?_eq_some found
        have shown : list.ranges ≠ [] := mt (ranges_eq_nil_iff (unbased list present)).mp entries
        exact iff_of_false shown fun empty => entries (empty list present same)
  · have opens : first.opensAt offset = true := opensAt_iff.mpr ⟨by simpa using start, filled⟩
    have found : lists.find? (opensAt offset) = some first := by
      refine List.find?_eq_some_iff_append.mpr ⟨opens, before, after, layout, ?_⟩
      intro other listed
      have differ := earlier other listed
      simp [opensAt] at differ ⊢
      simp [differ]
    rw [read, found]
    simp [filled]

end Reused

def emptyList : PlainList where
  entries := []
  close := 0x10

def laterList : PlainList where
  entries := [.ordinary 0x10 { start := 4, stop := 8 } registerOne]
  close := 0x1c

theorem plain_reusedOffset : (∀ list ∈ [otherList, emptyList, laterList], list.leadingBase = []) ∧
    ∀ list ∈ [otherList, emptyList, laterList], 0x10 ∉ list.offsets.tail := by
  decide

theorem ranges_printed_eq_first_iff_reusedOffset :
    ((∀ list ∈ [otherList, emptyList, laterList], list.leadingBase = []) ∧
        ∀ list ∈ [otherList, emptyList, laterList], 0x10 ∉ list.offsets.tail) ∧
      [otherList, emptyList, laterList].find? (·.start == 0x10) = some emptyList ∧
      LocationList.ranges (printed 8 [otherList, emptyList, laterList]) ⟨0x10⟩ =
        (([otherList, emptyList, laterList].find? (opensAt 0x10)).map ranges).getD [] ∧
      (LocationList.ranges (printed 8 [otherList, emptyList, laterList]) ⟨0x10⟩ =
          emptyList.ranges ↔ emptyList.entries ≠ [] ∨
        ∀ list ∈ [otherList, emptyList, laterList], list.start = 0x10 → list.entries = []) :=
  ⟨plain_reusedOffset, rfl,
    ranges_printed_eq_first_iff 8 plain_reusedOffset.1 plain_reusedOffset.2 rfl⟩

/-- The first list at the offset is empty, and the ranges of the next one are read. -/
theorem empty_list_read_as_later_list :
    ((∀ list ∈ [otherList, emptyList, laterList], list.leadingBase = []) ∧
        ∀ list ∈ [otherList, emptyList, laterList], 0x10 ∉ list.offsets.tail) ∧
      [otherList, emptyList, laterList].find? (·.start == 0x10) = some emptyList ∧
      emptyList.ranges = [] ∧
      LocationList.ranges (printed 8 [otherList, emptyList, laterList]) ⟨0x10⟩ =
        [{ start := 4, stop := 8 }] :=
  ⟨plain_reusedOffset, rfl, rfl,
    ranges_printed_eq_find? 8 plain_reusedOffset.1 plain_reusedOffset.2⟩

end LiveRange.LocationList.PlainList
