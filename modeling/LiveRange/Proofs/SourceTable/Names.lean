import LiveRange.Proofs.Text.Marks
import LiveRange.SourceTable.LineDump

/-! The name in the last field of a row, told by the text of the field. -/

namespace LiveRange

/-- A name behind the note that tells where an indirect string is stored. -/
def noted (inLines : Bool) (digits name : Text) : Text :=
  let stored := Text.marked "string, offset: 0x" (digits ++ Text.marked "):" name)
  Text.marked "(indirect " (if inLines then Text.marked "line " stored else stored)

theorem afterNote?_noted (inLines : Bool) {digits : Text} (nonempty : digits ≠ [])
    (inside : ∀ c ∈ digits, Numeral.isHexDigit c = true) (name : Text) :
    plainName.afterNote? (noted inLines digits name) = some name.trimStart := by
  have closing : ∀ c ∈ (Text.marked "):" name).head?, Numeral.isHexDigit c = false := by
    intro c first
    cases first
    decide
  have run := Text.afterRun?_append nonempty inside closing
  have unmarked : ∀ rest, Text.after? "line " (Text.marked "string, offset: 0x" rest) = none :=
    fun rest => Text.after?_marked_of_ne rfl rfl (by decide) rest
  cases inLines with
  | true =>
      simp only [noted, plainName.afterNote?, if_true, Text.after?_marked, Option.bind_eq_bind,
        Option.bind_some, Option.getD_some, run]
      rfl
  | false =>
      simp only [noted, plainName.afterNote?, Bool.false_eq_true, if_false, Text.after?_marked,
        Option.bind_eq_bind, Option.bind_some, unmarked, Option.getD_none, run]
      rfl

theorem eq_noted_of_afterNote? {field name : Text}
    (found : plainName.afterNote? field = some name) :
    ∃ inLines digits rest, digits ≠ [] ∧ (∀ c ∈ digits, Numeral.isHexDigit c = true) ∧
      field = noted inLines digits rest := by
  simp only [plainName.afterNote?, Option.bind_eq_bind, Option.bind_eq_some_iff] at found
  obtain ⟨opened, opening, stored, offset, behind, run, rest, closing, _⟩ := found
  obtain ⟨digits, nonempty, inside, split⟩ := Text.eq_of_afterRun? run
  rw [Text.eq_marked_of_after? closing] at split
  cases line : Text.after? "line " opened with
  | none =>
      rw [line, Option.getD_none] at offset
      refine ⟨false, digits, rest, nonempty, inside, ?_⟩
      rw [Text.eq_marked_of_after? opening, Text.eq_marked_of_after? offset, split]
      rfl
  | some behindLine =>
      rw [line, Option.getD_some] at offset
      refine ⟨true, digits, rest, nonempty, inside, ?_⟩
      rw [Text.eq_marked_of_after? opening, Text.eq_marked_of_after? line,
        Text.eq_marked_of_after? offset, split]
      rfl

/-- The name in a field. A note in front of it is no part of it, and neither are blanks at its
ends. -/
inductive NameIn (field : Text) : Text → Prop
  | noted {inLines : Bool} {digits rest : Text} (nonempty : digits ≠ [])
      (inside : ∀ c ∈ digits, Numeral.isHexDigit c = true)
      (whole : field.trimEnd = noted inLines digits rest) : NameIn field rest.trimStart
  | plain (unnoted : ∀ inLines digits rest, digits ≠ [] →
      (∀ c ∈ digits, Numeral.isHexDigit c = true) →
        field.trimEnd ≠ noted inLines digits rest) : NameIn field field.trimEnd

theorem plainName_eq_iff {field name : Text} : plainName field = name ↔ NameIn field name := by
  rw [plainName]
  constructor
  · rintro rfl
    cases found : plainName.afterNote? field.trimEnd with
    | some shown =>
        obtain ⟨inLines, digits, rest, nonempty, inside, whole⟩ := eq_noted_of_afterNote? found
        rw [whole, afterNote?_noted inLines nonempty inside] at found
        rw [Option.getD_some, ← Option.some.inj found]
        exact .noted nonempty inside whole
    | none =>
        refine .plain ?_
        intro inLines digits rest nonempty inside whole
        rw [whole, afterNote?_noted inLines nonempty inside] at found
        cases found
  · intro named
    cases named with
    | noted nonempty inside whole =>
        rw [whole, afterNote?_noted _ nonempty inside, Option.getD_some]
    | plain unnoted =>
        cases found : plainName.afterNote? field.trimEnd with
        | none => rfl
        | some shown =>
            obtain ⟨inLines, digits, rest, nonempty, inside, whole⟩ := eq_noted_of_afterNote? found
            exact absurd whole (unnoted inLines digits rest nonempty inside)

end LiveRange
