import LiveRange.Proofs.Entry.InfoLine
import LiveRange.Proofs.Entry.Respelled
import LiveRange.Proofs.Text.Relaid

/-! A declaration does not depend on the layout of its dump: blanks at the ends of a line take no
part in what the line is, and a scan passes over blank lines. -/

namespace LiveRange

/-- A name and the value behind it, without the blanks at its ends. -/
def withinBlanks (found : Text × Text) : Text × Text := (found.1, found.2.trim)

section Behind

variable {blanks : Text} (blank : Text.Blank blanks) (text : Text)

include blank

theorem isEntryHeader_append_blank_right : isEntryHeader (text ++ blanks) = isEntryHeader text := by
  by_cases nothing : Text.Blank text
  · rw [isEntryHeader, isEntryHeader, Text.trimStart_eq_nil_iff.mpr nothing,
      Text.trimStart_eq_nil_iff.mpr (Text.Blank.append blank nothing)]
  · have marks : Text.IsTrimmed "<".toList ∧ Text.IsTrimmed "><".toList ∧
        Text.IsTrimmed ">: Abbrev Number:".toList := by decide
    rw [isEntryHeader, isEntryHeader, Text.trimStart_append_of_not_blank nothing]
    simp only [Text.after?_append_blank blank marks.1, Text.after?_append_blank blank marks.2.1,
      Text.after?_append_blank blank marks.2.2,
      Text.afterRun?_append_blank blank fun _ => isDecimalDigit_of_isBlank,
      Text.afterRun?_append_blank blank fun _ => isHexDigit_of_isBlank, Option.bind_eq_bind,
      Option.bind_map, Function.comp_def, Option.isSome_bind, Option.isSome_map]

/-- The colon of a value stands in front of the blanks. -/
theorem colon_append_blank :
    ((text ++ blanks).trimStart.after? ":").map Text.trim =
      (text.trimStart.after? ":").map Text.trim := by
  by_cases nothing : Text.Blank text
  · rw [Text.trimStart_eq_nil_iff.mpr nothing,
      Text.trimStart_eq_nil_iff.mpr (Text.Blank.append blank nothing)]
  · have solid : Text.IsTrimmed ":".toList := by decide
    have same : Text.trim ∘ (· ++ blanks) = Text.trim :=
      funext (Text.trim_append_blank_right blank)
    rw [Text.trimStart_append_of_not_blank nothing, Text.after?_append_blank blank solid,
      Option.map_map, same]

theorem namedValue?_append_blank :
    (namedValue? (text ++ blanks)).map withinBlanks = (namedValue? text).map withinBlanks := by
  have letters : ∀ c, isBlank c = true → isWordChar c = false := fun _ => isWordChar_of_isBlank
  have mark : Text.IsTrimmed "DW_AT_".toList := by decide
  have inner (name : Text) (value? : Option Text) :
      (value?.bind fun value => some (name, value.trimStart)).map withinBlanks =
        (value?.map Text.trim).map (name, ·) := by
    cases value? with
    | none => rfl
    | some value =>
        simp only [Option.bind_some, Option.map_some, withinBlanks, Text.trim_trimStart]
  rw [namedValue?, namedValue?, Text.takeWhile_append_blank blank letters,
    Text.after?_append_blank blank mark]
  cases Text.after? "DW_AT_" text with
  | none => rfl
  | some tail =>
      simp only [Option.map_some, Option.bind_eq_bind, Option.bind_some,
        Text.afterRun?_append_blank blank letters]
      cases Text.afterRun? isWordChar tail with
      | none => rfl
      | some rest =>
          have value := colon_append_blank blank rest
          simp only [Option.map_some, Option.bind_some, pure, inner, value]

theorem firstNamedValue?_append_blank_right (afterWord : Bool) :
    (firstNamedValue? afterWord (text ++ blanks)).map withinBlanks =
      (firstNamedValue? afterWord text).map withinBlanks := by
  -- Over what stands in front of the name: the blanks make no name at a place that has none.
  induction text generalizing afterWord with
  | nil =>
      have absent : 'D' ∉ blanks := by
        intro member
        cases blank 'D' member
      have unmarked : Text.mentions "DW_AT_" blanks = false := Text.mentions_of_notMem rfl absent
      rw [List.nil_append, firstNamedValue?_of_unnamed unmarked]
      rfl
  | cons c rest ih =>
      have here := namedValue?_append_blank blank (c :: rest)
      rw [List.cons_append] at here
      rw [List.cons_append, firstNamedValue?, firstNamedValue?]
      cases afterWord with
      | true => exact ih (isWordChar c)
      | false =>
          simp only [Bool.false_eq_true, if_false]
          cases found : namedValue? (c :: rest) with
          | none =>
              rw [found] at here
              rw [Option.map_eq_none_iff.mp here]
              exact ih (isWordChar c)
          | some first =>
              rw [found] at here
              obtain ⟨second, read, inner⟩ := Option.map_eq_some_iff.mp here
              rw [read]
              exact congrArg some inner

end Behind

section Line

variable {line other : Text} (same : line.SameInside other)

include same

theorem isUnitHeader_of_sameInside : isUnitHeader line = isUnitHeader other :=
  same.startsWith_eq (by decide)

theorem isEntryHeader_of_sameInside : isEntryHeader line = isEntryHeader other := by
  have inside : ∀ text, isEntryHeader text.trim = isEntryHeader text := by
    apply Text.eq_trim_of_append_blank
    · intro blanks blank text
      rw [isEntryHeader, isEntryHeader, Text.trimStart_append_blank blank]
    · exact isEntryHeader_append_blank_right
  rw [← inside line, same, inside]

theorem firstNamedValue?_of_sameInside :
    (firstNamedValue? false line).map withinBlanks =
      (firstNamedValue? false other).map withinBlanks := by
  have inside : ∀ text, (firstNamedValue? false (Text.trim text)).map withinBlanks =
      (firstNamedValue? false text).map withinBlanks := by
    apply Text.eq_trim_of_append_blank fun text => (firstNamedValue? false text).map withinBlanks
    · intro blanks blank text
      rw [firstNamedValue?_append_blank blank]
    · intro blanks blank text
      exact firstNamedValue?_append_blank_right blank text false
  rw [← inside line, same, inside]

namespace InfoLine

/-- Of a value only its words and its marks are read. -/
theorem Alike.of_sameInside (kind : Attribute) :
    Alike (.tracked kind line) (.tracked kind other) := by
  refine .tracked kind ?_ ?_ ?_
  · rw [same.words_eq]
  · rw [firstNumber?, firstNumber?, same.words_eq]
  · rw [namedList?, namedList?, same.words_eq, same.mentions_eq (by decide)]

theorem alike_ofLine : Alike (ofLine line) (ofLine other) := by
  have named := firstNamedValue?_of_sameInside same
  rw [ofLine, ofLine, isUnitHeader_of_sameInside same, isEntryHeader_of_sameInside same,
    Attribute.ofLine?, Attribute.ofLine?]
  split_ifs
  · exact .unitHeader
  · exact .entryHeader
  · cases found : firstNamedValue? false line with
    | none =>
        rw [found] at named
        rw [Option.map_eq_none_iff.mp named.symm]
        exact .other
    | some first =>
        obtain ⟨name, value⟩ := first
        rw [found] at named
        obtain ⟨⟨nameOther, held⟩, foundOther, inner⟩ := Option.map_eq_some_iff.mp named.symm
        obtain ⟨sameName, sameValue⟩ := Prod.mk.inj inner
        have same : nameOther = name := sameName
        simp only [foundOther, same, Option.bind_eq_bind, Option.bind_some]
        cases Attribute.ofName? name with
        | none => exact .other
        | some kind => exact .of_sameInside sameValue.symm kind

end InfoLine

end Line

theorem InfoLine.ofLine_of_trim_eq_nil {line : Text} (blank : line.trim = []) :
    ofLine line = .other := by
  have same : line.SameInside [] := blank
  have nothing : ofLine [] = .other := rfl
  have alike := alike_ofLine same
  rw [nothing] at alike
  generalize ofLine line = info at alike
  cases alike
  rfl

namespace EntryScan

theorem trailingLocation?_filter (lines : List InfoLine) :
    trailingLocation? (lines.filter (· ≠ .other)) = trailingLocation? lines := by
  induction lines with
  | nil => rfl
  | cons info lines ih =>
      rcases info with _ | _ | ⟨_ | _ | _ | _, value⟩ | _
      case tracked.location => rfl
      case unitHeader => rfl
      case entryHeader => rfl
      all_goals exact ih

variable (table : SourceTable) (source : Path) (line : UInt64) (scan : EntryScan)

/-- Lines that say nothing of an entry may be left out. -/
theorem find?_filter (lines : List InfoLine) :
    find? table source line scan (lines.filter (· ≠ .other)) =
      find? table source line scan lines := by
  induction lines generalizing scan with
  | nil => rfl
  | cons info lines ih =>
      by_cases closing : ∃ value, info = .tracked .declLine value
      · obtain ⟨value, rfl⟩ := closing
        have kept : complete? table source line scan value (lines.filter (· ≠ .other)) =
            complete? table source line scan value lines := by
          rw [complete?, complete?, locationBefore, locationBefore, trailingLocation?_filter]
        rw [List.filter_cons_of_pos rfl, find?_declLine, find?_declLine, kept, ih]
      · have silent : ∀ value, info ≠ .tracked .declLine value := not_exists.mp closing
        by_cases plain : info = .other
        · rw [plain, List.filter_cons_of_neg (by simp), ih]
          rfl
        · rw [List.filter_cons_of_pos (by simpa using plain), find?_cons silent, find?_cons silent,
            ih]

theorem find?_filledLines (dump : Text) :
    find? table source line scan (dump.filledLines.map InfoLine.ofLine) =
      find? table source line scan (dump.lines.map InfoLine.ofLine) := by
  have same : (dump.filledLines.map InfoLine.ofLine).filter (· ≠ .other) =
      (dump.lines.map InfoLine.ofLine).filter (· ≠ .other) := by
    rw [Text.filledLines, List.filter_map, List.filter_map, List.filter_filter]
    congr 2
    funext line
    by_cases blank : line.trim = []
    · simp [InfoLine.ofLine_of_trim_eq_nil blank]
    · simp [blank]
  rw [← find?_filter, same, find?_filter]

end EntryScan

theorem Declaration.find?_of_trimmedLines {dump other : Text}
    (same : dump.trimmedLines = other.trimmedLines) (table : SourceTable) (source : Path)
    (line : UInt64) : find? dump table source line = find? other table source line := by
  have lines := Text.sameInside_of_trimmedLines same
  rw [find?, find?, ← EntryScan.find?_filledLines, ← EntryScan.find?_filledLines]
  apply EntryScan.find?_of_alike
  exact List.rel_map (fun _ _ same => InfoLine.alike_ofLine same) lines

end LiveRange
