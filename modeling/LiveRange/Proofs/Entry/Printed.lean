import LiveRange.Entry.Declaration
import LiveRange.Proofs.Entry.InfoLine
import LiveRange.Proofs.Numeral
import LiveRange.Proofs.Text.Lines
import LiveRange.Proofs.Text.Marks

/-! How entries and their attributes are printed, and what each printed line is read as. -/

namespace LiveRange

/-- What stands before the name of an attribute. -/
def attributeFront (offset : UInt64) : Text :=
  List.replicate 4 ' ' ++ '<' :: (Numeral.hexadecimal offset ++ ['>', ' ', ' '])

/-- An attribute on a line of its own, its name filled up to a column. -/
def attributeLine (offset : UInt64) (name value : Text) : Text :=
  attributeFront offset ++ ' ' ::
    Text.marked "DW_AT_" (name ++ (List.replicate (12 - name.length) ' ' ++ ':' :: ' ' :: value))

/-- The attribute by which a unit names its line-number program. -/
def programLine (offset program : UInt64) : Text :=
  attributeLine offset "stmt_list".toList (Numeral.markedHexadecimal program)

def entryHeader (depth offset : UInt64) (title : Text) : Text :=
  ' ' :: Text.marked "<" (Numeral.decimal depth ++ Text.marked "><" (Numeral.hexadecimal offset ++
    Text.marked ">: Abbrev Number:" (' ' :: title)))

def unitHeader (offset : UInt64) : Text :=
  List.replicate 2 ' ' ++
    Text.marked "Compilation Unit @ offset" (' ' :: (Numeral.markedHexadecimal offset ++ [':']))

/-- A line that says nothing of an entry. -/
structure Quiet (line : Text) : Prop where
  unnamed : Text.mentions "DW_AT_" line = false
  untitled : Text.startsWith "Compilation Unit @ offset" line.trimStart = false
  unopened : Text.startsWith "<" line.trimStart = false

/-- An attribute other than those that decide where an entry is declared and located. -/
structure Untracked where
  name : Text
  value : Text
  nonempty : name ≠ []
  word : ∀ c ∈ name, isWordChar c = true
  other : ∀ kind : Attribute, kind.name.toList ≠ Text.marked "DW_AT_" name
  oneLine : '\n' ∉ value

/-- A location list by its offset, or an expression in place. -/
inductive PrintedLocation where
  | list (list : ListOffset)
  | inPlace (text : Text) (oneLine : '\n' ∉ text)
    (unmarked : Text.mentions "location list" text = false)

namespace PrintedLocation

def value : PrintedLocation → Text
  | list offset => offset.text ++ ' ' :: "(location list)".toList
  | inPlace text _ _ => text

def named? : PrintedLocation → Option ListOffset
  | list offset => some offset
  | inPlace _ _ _ => none

end PrintedLocation

inductive Detail where
  | untracked (other : Untracked)
  | location (shown : PrintedLocation)
  | declFile (index : UInt64)
  | declLine (line : UInt64)

namespace Detail

def name : Detail → Text
  | untracked other => other.name
  | location _ => "location".toList
  | declFile _ => "decl_file".toList
  | declLine _ => "decl_line".toList

def value : Detail → Text
  | untracked other => other.value
  | location shown => shown.value
  | declFile index => Numeral.decimal index
  | declLine line => Numeral.decimal line

def line (offset : UInt64) (detail : Detail) : Text :=
  attributeLine offset detail.name detail.value

/-- What the line is read as, a carriage return at its end left out. -/
def infoLine : Detail → InfoLine
  | untracked _ => .other
  | location shown => .tracked .location (Text.trimStart (Text.dropReturn shown.value))
  | declFile index => .tracked .declFile (Numeral.decimal index)
  | declLine line => .tracked .declLine (Numeral.decimal line)

end Detail

section Lines

variable (offset : UInt64)

theorem notMem_attributeFront {c : Char} (other : Numeral.isHexDigit c = false) (blank : c ≠ ' ')
    (bracket : c ≠ '<' ∧ c ≠ '>') : c ∉ attributeFront offset := by
  have digits := Numeral.notMem_hexadecimal other offset
  simp [attributeFront, digits, blank, bracket]

theorem ofLine?_attributeLine {name : Text} (nonempty : name ≠ [])
    (word : ∀ c ∈ name, isWordChar c = true) (value : Text) :
    Attribute.ofLine? (attributeLine offset name value) =
      (Attribute.ofName? (Text.marked "DW_AT_" name)).map fun kind =>
        (kind, Text.trimStart value) := by
  have named := namedValue?_marked nonempty word
    (Text.blank_replicate (12 - name.length)) (' ' :: value)
  have absent : '_' ∉ attributeFront offset :=
    notMem_attributeFront offset (by decide) (by decide) (by decide)
  have first : firstNamedValue? false (attributeLine offset name value) =
      some (Text.marked "DW_AT_" name, Text.trimStart value) := by
    rw [attributeLine, firstNamedValue?_append absent (by decide),
      firstNamedValue?_of_named named, Text.trimStart_cons_blank rfl]
  rw [Attribute.ofLine?, first, Option.map_eq_bind]
  rfl

theorem trimStart_attributeLine (name value : Text) :
    ∃ behind, (attributeLine offset name value).trimStart =
      Text.marked "<" (Numeral.hexadecimal offset ++ Text.marked ">  " behind) := by
  refine ⟨' ' :: Text.marked "DW_AT_" (name ++
    (List.replicate (12 - name.length) ' ' ++ ':' :: ' ' :: value)), ?_⟩
  rw [attributeLine, attributeFront, List.append_assoc,
    Text.trimStart_append_blank (Text.blank_replicate 4), List.cons_append, List.append_assoc]
  have bracket : "<".toList = '<' :: [] := rfl
  exact Text.trimStart_marked bracket rfl _

theorem isEntryHeader_attributeLine (name value : Text) :
    isEntryHeader (attributeLine offset name value) = false := by
  obtain ⟨behind, front⟩ := trimStart_attributeLine offset name value
  have digits : '>' ∉ Numeral.hexadecimal offset := Numeral.notMem_hexadecimal (by decide) offset
  have spaced : '<' ∉ List.head? (' ' :: ' ' :: behind) := by simp
  exact isEntryHeader_of_unopened front digits spaced

theorem trimStart_entryHeader (depth : UInt64) (title : Text) :
    (entryHeader depth offset title).trimStart = Text.marked "<" (Numeral.decimal depth ++
      Text.marked "><" (Numeral.hexadecimal offset ++
        Text.marked ">: Abbrev Number:" (' ' :: title))) := by
  rw [entryHeader, Text.trimStart_cons_blank rfl, Text.trimStart_marked rfl rfl]

theorem isEntryHeader_entryHeader (depth : UInt64) (title : Text) :
    isEntryHeader (entryHeader depth offset title) = true := by
  have decimal : ∀ c ∈ Numeral.decimal depth, isDecimalDigit c = true := by
    intro c member
    obtain ⟨digit, small, rfl⟩ := Numeral.mem_toDigits (by omega) member
    have each : ∀ value : Fin 10, isDecimalDigit (Nat.digitChar value) = true := by decide
    exact each ⟨digit, small⟩
  have hexadecimal : ∀ c ∈ Numeral.hexadecimal offset, Numeral.isHexDigit c = true :=
    fun _ member => Numeral.isHexDigit_of_mem_hexadecimal member
  have nonempty : Numeral.hexadecimal offset ≠ [] := Nat.toDigits_ne_nil
  have closing : isDecimalDigit '>' = false ∧ Numeral.isHexDigit '>' = false := by decide
  have behindDepth : ∀ rest, ∀ c ∈ (Text.marked "><" rest).head?, isDecimalDigit c = false := by
    intro rest c first
    cases first
    exact closing.1
  have behindOffset : ∀ rest, ∀ c ∈ (Text.marked ">: Abbrev Number:" rest).head?,
      Numeral.isHexDigit c = false := by
    intro rest c first
    cases first
    exact closing.2
  rw [isEntryHeader, trimStart_entryHeader, Text.after?_marked, Option.bind_eq_bind,
    Option.bind_some, Text.afterRun?_append (Numeral.isWord_decimal depth).1 decimal
      (behindDepth _), Option.bind_some, Text.after?_marked, Option.bind_some,
    Text.afterRun?_append nonempty hexadecimal (behindOffset _), Option.bind_some,
    Text.after?_marked]
  rfl

theorem isUnitHeader_unitHeader : isUnitHeader (unitHeader offset) = true := by
  have front : (unitHeader offset).trimStart = Text.marked "Compilation Unit @ offset"
      (' ' :: (Numeral.markedHexadecimal offset ++ [':'])) := by
    rw [unitHeader, Text.trimStart_append_blank (Text.blank_replicate 2),
      Text.trimStart_marked rfl rfl]
  rw [isUnitHeader, front, Text.startsWith_marked]

theorem ofLine_unitHeader : InfoLine.ofLine (unitHeader offset) = .unitHeader := by
  rw [InfoLine.ofLine, isUnitHeader_unitHeader, if_pos rfl]

theorem isLine_unitHeader : Text.IsLine (unitHeader offset) := by
  have mark : '\n' ∉ "Compilation Unit @ offset".toList := by decide
  have number := (Numeral.isWord_markedHexadecimal offset).isLine.single
  have behind : Text.IsLine (' ' :: (Numeral.markedHexadecimal offset ++ [':'])) := by
    constructor
    · simp [number]
    · simp [List.getLast?_cons]
  have parts := behind.append (List.cons_ne_nil _ _) mark
  exact parts.append (by simp) (by decide)

theorem ofLine_entryHeader (depth : UInt64) (title : Text) :
    InfoLine.ofLine (Text.dropReturn (entryHeader depth offset title)) = .entryHeader := by
  have kept : Text.dropReturn (entryHeader depth offset title) =
      entryHeader depth offset (Text.dropReturn title) := by
    have whole : ∀ title, entryHeader depth offset title = ' ' :: ("<".toList ++
        (Numeral.decimal depth ++ ("><".toList ++ (Numeral.hexadecimal offset ++
          ">: Abbrev Number:".toList)))) ++ ' ' :: title := by
      intro title
      simp [entryHeader, Text.marked]
    rw [whole, whole, Text.dropReturn_append_cons (by decide)]
  have other := isUnitHeader_of_bracket (trimStart_entryHeader offset depth (Text.dropReturn title))
  rw [kept, InfoLine.ofLine, other, if_neg Bool.false_ne_true, isEntryHeader_entryHeader,
    if_pos rfl]

theorem ofLine_attributeLine {name : Text} (nonempty : name ≠ [])
    (word : ∀ c ∈ name, isWordChar c = true) (value : Text) :
    InfoLine.ofLine (Text.dropReturn (attributeLine offset name value)) =
      match Attribute.ofName? (Text.marked "DW_AT_" name) with
      | some kind => .tracked kind (Text.trimStart (Text.dropReturn value))
      | none => .other := by
  have kept : Text.dropReturn (attributeLine offset name value) =
      attributeLine offset name (Text.dropReturn value) := by
    have whole : ∀ value, attributeLine offset name value = attributeFront offset ++ ' ' ::
        ("DW_AT_".toList ++ (name ++ (List.replicate (12 - name.length) ' ' ++ [':']))) ++
          ' ' :: value := by
      intro value
      simp [attributeLine, Text.marked]
    rw [whole, whole, Text.dropReturn_append_cons (by decide)]
  obtain ⟨behind, front⟩ := trimStart_attributeLine offset name (Text.dropReturn value)
  rw [kept, InfoLine.ofLine, isUnitHeader_of_bracket front, if_neg Bool.false_ne_true,
    isEntryHeader_attributeLine, if_neg Bool.false_ne_true,
    ofLine?_attributeLine offset nonempty word]
  cases Attribute.ofName? (Text.marked "DW_AT_" name) with
  | none => rfl
  | some kind => rfl

theorem ofLine_of_quiet {line : Text} (quiet : Quiet line) : InfoLine.ofLine line = .other := by
  have unheaded : isEntryHeader line = false := by
    cases found : Text.after? "<" line.trimStart with
    | none =>
        rw [isEntryHeader, found]
        rfl
    | some rest =>
        have opening := quiet.unopened
        rw [Text.eq_marked_of_after? found, Text.startsWith_marked] at opening
        cases opening
  have nameless : Attribute.ofLine? line = none := by
    rw [Attribute.ofLine?, firstNamedValue?_of_unnamed quiet.unnamed]
    rfl
  rw [InfoLine.ofLine, isUnitHeader, quiet.untitled, if_neg Bool.false_ne_true, unheaded,
    if_neg Bool.false_ne_true, nameless]

end Lines

theorem Numeral.trimStart_dropReturn_decimal (value : UInt64) :
    Text.trimStart (Text.dropReturn (decimal value)) = decimal value := by
  have word := isWord_decimal value
  rw [Text.dropReturn_of_back word.isLine.back, Text.trimStart_of_front word.isTrimmed.front]

theorem firstNumber?_decimal (value : UInt64) :
    firstNumber? (Numeral.decimal value) = some value := by
  rw [firstNumber?, (Numeral.isWord_decimal value).words, List.head?_cons, Option.bind_some,
    Numeral.parse?_decimal]

namespace PrintedLocation

theorem newline_notMem_value (location : PrintedLocation) : '\n' ∉ location.value := by
  cases location with
  | inPlace text oneLine _ => exact oneLine
  | list offset =>
      have number := (Numeral.isWord_markedHexadecimal offset.value).isLine.single
      have note : '\n' ∉ "(location list)".toList := by decide
      simp only [value, ListOffset.text, List.mem_append, List.mem_cons, number, note, or_false,
        false_or]
      decide

/-- A list is read back, and an expression names none. -/
theorem namedList?_value (location : PrintedLocation) :
    namedList? (Text.trimStart (Text.dropReturn location.value)) = location.named? := by
  cases location with
  | inPlace text oneLine unmarked =>
      have silent :
          Text.mentions "location list" (Text.trimStart (Text.dropReturn text)) = false := by
        rw [← Bool.not_eq_true, Text.mentions_iff]
        intro inside
        have whole := inside.trans
          ((List.dropWhile_suffix isBlank).isInfix.trans (Text.dropReturn_prefix text).isInfix)
        rw [← Text.mentions_iff, unmarked] at whole
        cases whole
      rw [namedList?]
      exact if_neg (ne_true_of_eq_false silent)
  | list offset =>
      have word : Text.IsWord offset.text := Numeral.isWord_markedHexadecimal offset.value
      have note : Text.IsTrimmed "(location list)".toList := by decide
      have trimmed : Text.IsTrimmed (list offset).value := by
        have parts := word.isTrimmed.append note [' ']
        rwa [List.append_assoc, List.singleton_append] at parts
      have kept : Text.trimStart (Text.dropReturn (list offset).value) = (list offset).value := by
        rw [Text.dropReturn_of_back (trimmed.isLine (newline_notMem_value (list offset))).back,
          Text.trimStart_of_front trimmed.front]
      have told : Text.mentions "location list" (list offset).value = true := by
        have found := Text.mentions_append_self "location list" (offset.text ++ [' ', '(']) [')']
        rw [← found]
        simp [value]
      have first : (list offset).value.words = offset.text :: Text.words "(location list)".toList :=
        word.words_cons rfl _
      rw [kept, namedList?, told, if_pos rfl, first, List.head?_cons, Option.bind_some,
        ListOffset.parse?_text]
      rfl

end PrintedLocation

namespace Detail

theorem isWord_name (detail : Detail) : detail.name ≠ [] ∧
    ∀ c ∈ detail.name, isWordChar c = true := by
  have fixed : ∀ name ∈ ["location".toList, "decl_file".toList, "decl_line".toList],
      name ≠ [] ∧ ∀ c ∈ name, isWordChar c = true := by decide
  cases detail with
  | untracked other => exact ⟨other.nonempty, other.word⟩
  | location _ => exact fixed _ List.mem_cons_self
  | declFile _ => exact fixed _ (List.mem_cons_of_mem _ List.mem_cons_self)
  | declLine _ => exact fixed _ (List.mem_cons_of_mem _ (List.mem_cons_of_mem _ List.mem_cons_self))

theorem ofLine_line (offset : UInt64) (detail : Detail) :
    InfoLine.ofLine (Text.dropReturn (detail.line offset)) = detail.infoLine := by
  obtain ⟨nonempty, word⟩ := detail.isWord_name
  rw [line, ofLine_attributeLine offset nonempty word]
  cases detail with
  | untracked other =>
      have untold : Attribute.ofName? (Text.marked "DW_AT_" (untracked other).name) = none := by
        cases found : Attribute.ofName? (Text.marked "DW_AT_" (untracked other).name) with
        | none => rfl
        | some kind => exact absurd (Attribute.name_of_ofName? found) (other.other kind)
      rw [untold]
      rfl
  | location shown =>
      have told : Attribute.ofName? (Text.marked "DW_AT_" (location shown).name) = some .location :=
        Attribute.ofName?_name .location
      rw [told]
      rfl
  | declFile index =>
      have told : Attribute.ofName? (Text.marked "DW_AT_" (declFile index).name) = some .declFile :=
        Attribute.ofName?_name .declFile
      have digits : Text.trimStart (Text.dropReturn (declFile index).value) =
          Numeral.decimal index := Numeral.trimStart_dropReturn_decimal index
      rw [told, digits]
      rfl
  | declLine number =>
      have told : Attribute.ofName? (Text.marked "DW_AT_" (declLine number).name) =
          some .declLine := Attribute.ofName?_name .declLine
      have digits : Text.trimStart (Text.dropReturn (declLine number).value) =
          Numeral.decimal number := Numeral.trimStart_dropReturn_decimal number
      rw [told, digits]
      rfl

theorem newline_notMem_line (offset : UInt64) (detail : Detail) : '\n' ∉ detail.line offset := by
  have word : isWordChar '\n' = false := by decide
  have front : '\n' ∉ attributeFront offset :=
    notMem_attributeFront offset (by decide) (by decide) ⟨by decide, by decide⟩
  have name : '\n' ∉ detail.name := by
    intro member
    rw [detail.isWord_name.2 '\n' member] at word
    cases word
  have value : '\n' ∉ detail.value := by
    cases detail with
    | untracked other => exact other.oneLine
    | location shown => exact shown.newline_notMem_value
    | declFile index => exact (Numeral.isWord_decimal index).isLine.single
    | declLine number => exact (Numeral.isWord_decimal number).isLine.single
  simp [line, attributeLine, Text.marked, front, name, value]

end Detail

theorem newline_notMem_programLine (offset program : UInt64) :
    '\n' ∉ programLine offset program := by
  have front : '\n' ∉ attributeFront offset :=
    notMem_attributeFront offset (by decide) (by decide) ⟨by decide, by decide⟩
  have value := (Numeral.isWord_markedHexadecimal program).isLine.single
  simp [programLine, attributeLine, Text.marked, front, value]

theorem ofLine_programLine (offset program : UInt64) :
    InfoLine.ofLine (Text.dropReturn (programLine offset program)) =
      .tracked .stmtList (Numeral.markedHexadecimal program) := by
  have word := Numeral.isWord_markedHexadecimal program
  have name : ∀ c ∈ "stmt_list".toList, isWordChar c = true := by decide
  have told : Attribute.ofName? (Text.marked "DW_AT_" "stmt_list".toList) = some .stmtList :=
    Attribute.ofName?_name .stmtList
  rw [programLine, ofLine_attributeLine offset (by decide) name, told,
    Text.dropReturn_of_back word.isLine.back, Text.trimStart_of_front word.isTrimmed.front]

theorem newline_notMem_entryHeader (depth offset : UInt64) {title : Text} (oneLine : '\n' ∉ title) :
    '\n' ∉ entryHeader depth offset title := by
  have marks : '\n' ∉ "<".toList ∧ '\n' ∉ "><".toList ∧ '\n' ∉ ">: Abbrev Number:".toList := by
    decide
  have digits := (Numeral.isWord_decimal depth).isLine.single
  have hexadecimal : '\n' ∉ Numeral.hexadecimal offset :=
    Numeral.notMem_hexadecimal (by decide) offset
  simp only [entryHeader, Text.marked, List.mem_append, List.mem_cons, marks, digits, hexadecimal,
    oneLine, or_false]
  decide

end LiveRange
