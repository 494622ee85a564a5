import LiveRange.Entry.Declaration
import LiveRange.Proofs.Entry.InfoLine
import LiveRange.Proofs.Text.Lines

/-! The value of an attribute that does not count has no part in which declaration is found,
whatever headers and attributes its text spells. -/

namespace LiveRange

/-- What stands in front of a value: an offset in brackets, the name of an attribute that does not
count, and a colon. -/
structure UntrackedHead where
  indent : Text
  offset : Text
  gap : Text
  letters : Text
  space : Text
  indented : Text.Blank indent
  parted : Text.Blank gap
  spaced : Text.Blank space
  digits : ∀ c ∈ offset, Numeral.isHexDigit c = true
  named : letters ≠ []
  word : ∀ c ∈ letters, isWordChar c = true
  untracked : ∀ kind : Attribute, kind.name.toList ≠ Text.marked "DW_AT_" letters

namespace UntrackedHead

def front (head : UntrackedHead) : Text :=
  head.indent ++ '<' :: (head.offset ++ '>' ::
    (head.gap ++ Text.marked "DW_AT_" (head.letters ++ head.space)))

def text (head : UntrackedHead) : Text := head.front ++ [':']

/-- The line from the name on. -/
def labelled (head : UntrackedHead) (value : Text) : Text :=
  Text.marked "DW_AT_" (head.letters ++ (head.space ++ ':' :: value))

variable (head : UntrackedHead)

theorem notMem_offset {c : Char} (other : Numeral.isHexDigit c = false) : c ∉ head.offset := by
  intro member
  rw [head.digits c member] at other
  cases other

theorem text_append (value : Text) :
    head.text ++ value =
      head.indent ++ Text.marked "<" (head.offset ++ '>' :: (head.gap ++ head.labelled value)) := by
  simp [text, front, labelled, Text.marked]

theorem text_ne_nil (value : Text) : head.text ++ value ≠ [] := by
  simp [text]

theorem trimStart_text_append (value : Text) :
    (head.text ++ value).trimStart =
      Text.marked "<" (head.offset ++ '>' :: (head.gap ++ head.labelled value)) := by
  have bracket : "<".toList = '<' :: [] := rfl
  rw [text_append, Text.trimStart_append_blank head.indented, Text.trimStart_marked bracket rfl]

/-- The label is not behind another bracket, so the line is no header of an entry. -/
theorem unopened (value : Text) : '<' ∉ (head.gap ++ head.labelled value).head? := by
  intro first
  cases gap : head.gap with
  | nil =>
      rw [gap, List.nil_append, labelled] at first
      cases first
  | cons c rest =>
      have solid := head.parted c (gap ▸ List.mem_cons_self)
      rw [gap, List.cons_append, List.head?_cons, Option.mem_some_iff] at first
      rw [first] at solid
      cases solid

/-- The label is the leftmost attribute name: the digits of the offset have no underscore, and what
comes behind the label comes too late. -/
theorem firstNamedValue?_text_append (value : Text) :
    firstNamedValue? false (head.text ++ value) =
      some (Text.marked "DW_AT_" head.letters, Text.trimStart value) := by
  have absent : '_' ∉ '<' :: head.offset := by
    rw [List.mem_cons, not_or]
    exact ⟨by decide, head.notMem_offset (by decide)⟩
  calc firstNamedValue? false (head.text ++ value)
      = firstNamedValue? false (('<' :: head.offset) ++ '>' ::
          (head.gap ++ head.labelled value)) := by
        rw [text_append, firstNamedValue?_append_blank head.indented]
        rfl
    _ = firstNamedValue? false (head.labelled value) := by
        rw [firstNamedValue?_append absent (by decide), firstNamedValue?_append_blank head.parted]
    _ = some (Text.marked "DW_AT_" head.letters, Text.trimStart value) := by
        exact firstNamedValue?_of_named
          (namedValue?_marked head.named head.word head.spaced value)

theorem ofLine_text_append (value : Text) : InfoLine.ofLine (head.text ++ value) = .other := by
  have front := head.trimStart_text_append value
  have unit : isUnitHeader (head.text ++ value) = false := isUnitHeader_of_bracket front
  have entry : isEntryHeader (head.text ++ value) = false :=
    isEntryHeader_of_unopened front (head.notMem_offset (by decide)) (head.unopened value)
  have unknown : Attribute.ofName? (Text.marked "DW_AT_" head.letters) = none := by
    cases known : Attribute.ofName? (Text.marked "DW_AT_" head.letters) with
    | none => rfl
    | some kind => exact absurd (Attribute.name_of_ofName? known) (head.untracked kind)
  have untold : Attribute.ofLine? (head.text ++ value) = none := by
    rw [Attribute.ofLine?, firstNamedValue?_text_append, Option.bind_eq_bind, Option.bind_some]
    simp only [unknown, Option.bind_eq_bind, Option.bind_none]
  rw [InfoLine.ofLine, unit, entry, untold]
  rfl

theorem ofLine_dropReturn (value : Text) :
    InfoLine.ofLine (Text.dropReturn (head.text ++ value)) = .other := by
  have kept : Text.dropReturn (head.text ++ value) = head.text ++ Text.dropReturn value := by
    rw [text, List.append_assoc, List.append_assoc]
    exact Text.dropReturn_append_cons (by decide) head.front value
  rw [kept, ofLine_text_append]

end UntrackedHead

namespace Declaration

/-- Any other value on the same line leaves the declaration that is found as it is. -/
theorem find?_of_untracked_value (head : UntrackedHead) {before value other after : Text}
    (whole : Text.IsLineOf before (head.text ++ value) after) (single : '\n' ∉ other)
    (table : SourceTable) (source : Path) (line : UInt64) :
    find? (before ++ (head.text ++ value ++ after)) table source line =
      find? (before ++ (head.text ++ other ++ after)) table source line := by
  have ⟨ended, singleWhole, boundary⟩ := whole
  have singleOther : '\n' ∉ head.text ++ other := by
    rw [List.mem_append, not_or] at singleWhole ⊢
    exact ⟨singleWhole.1, single⟩
  have replaced : Text.IsLineOf before (head.text ++ other) after :=
    ⟨ended, singleOther, boundary⟩
  have untold (shown : Text) : InfoLine.ofLine (if after = [] then head.text ++ shown
      else Text.dropReturn (head.text ++ shown)) = .other := by
    split_ifs
    · exact head.ofLine_text_append shown
    · exact head.ofLine_dropReturn shown
  rw [find?, find?, whole.lines (head.text_ne_nil value), replaced.lines (head.text_ne_nil other)]
  simp only [List.map_append, List.map_cons, untold]

def nameHead : UntrackedHead where
  indent := "    ".toList
  offset := "1D".toList
  gap := "   ".toList
  letters := "name".toList
  space := "  ".toList
  indented := by decide
  parted := by decide
  spaced := by decide
  digits := by decide
  named := by decide
  word := by decide
  untracked := by
    intro kind
    cases kind <;> decide

/-- The name of the variable spells a declaration line, which would spend the file before it. -/
theorem find?_of_untracked_value_spelledLine :
    let before := Text.unlines <| [" <b> DW_AT_stmt_list : 0x0",
      " <c> DW_AT_decl_file : 1"].map String.toList
    let after := "\n <2e> DW_AT_decl_line : 14".toList
    let table := SourceTable.empty.insert ⟨.offset 0, 1⟩ "/src/main.c".toList
    Text.IsLineOf before (nameHead.text ++ " count".toList) after ∧
      '\n' ∉ " DW_AT_decl_line : 12".toList ∧
      find? (before ++ (nameHead.text ++ " count".toList ++ after)) table
          "/src/main.c".toList 14 =
        find? (before ++ (nameHead.text ++ " DW_AT_decl_line : 12".toList ++ after)) table
          "/src/main.c".toList 14 ∧
      (find? (before ++ (nameHead.text ++ " count".toList ++ after)) table
        "/src/main.c".toList 14).isSome = true := by
  intro before after table
  have whole : Text.IsLineOf before (nameHead.text ++ " count".toList) after :=
    ⟨by decide +kernel, by decide +kernel, by decide +kernel⟩
  have single : '\n' ∉ " DW_AT_decl_line : 12".toList := by decide
  refine ⟨whole, single, find?_of_untracked_value nameHead whole single table _ 14, ?_⟩
  decide +kernel

end Declaration

end LiveRange
