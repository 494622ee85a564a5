import LiveRange.Proofs.Numeral.Reading

/-! The name that is read from a token stands for all tokens that say the same, and it is read back
from its own text. -/

namespace LiveRange

theorem Numeral.parse?_trim (radix : Radix) (text : Text) :
    parse? radix text.trim = parse? radix text := by
  rw [parse?, parse?, Text.trim_trim]

namespace UnitName

/-- Both tokens are numbers of one value, or neither is a number and they differ in blanks around
them only. -/
inductive SameProgram (text other : Text) : Prop
  | numbers {value : UInt64} (number : Numeral.Denotes .decimal text value.toNat)
      (otherNumber : Numeral.Denotes .decimal other value.toNat)
  | verbatim (foreign : ∀ value : UInt64, ¬ Numeral.Denotes .decimal text value.toNat)
      (otherForeign : ∀ value : UInt64, ¬ Numeral.Denotes .decimal other value.toNat)
      (same : text.trim = other.trim)

variable {text other : Text}

theorem parse_eq_offset_iff {value : UInt64} :
    parse text = .offset value ↔ Numeral.Denotes .decimal text value.toNat := by
  rw [← Numeral.parse?_eq_some_iff, parse]
  cases Numeral.parse? .decimal text with
  | some number => simp
  | none => simp

theorem parse_eq_verbatim_iff {token : Text} :
    parse text = .verbatim token ↔
      (∀ value : UInt64, ¬ Numeral.Denotes .decimal text value.toNat) ∧ text.trim = token := by
  simp only [← Numeral.parse?_eq_some_iff, parse]
  cases Numeral.parse? .decimal text with
  | some number => simp
  | none => simp

theorem parse_eq_parse_iff : parse text = parse other ↔ SameProgram text other := by
  constructor
  · intro same
    cases name : parse other with
    | offset value =>
        exact .numbers (parse_eq_offset_iff.mp (same.trans name)) (parse_eq_offset_iff.mp name)
    | verbatim token =>
        have ⟨foreign, trimmed⟩ := parse_eq_verbatim_iff.mp (same.trans name)
        have ⟨otherForeign, otherTrimmed⟩ := parse_eq_verbatim_iff.mp name
        exact .verbatim foreign otherForeign (trimmed.trans otherTrimmed.symm)
  · intro same
    cases same with
    | numbers number otherNumber =>
        rw [parse_eq_offset_iff.mpr number, parse_eq_offset_iff.mpr otherNumber]
    | verbatim foreign otherForeign trimmed =>
        rw [parse_eq_verbatim_iff.mpr ⟨foreign, trimmed⟩,
          parse_eq_verbatim_iff.mpr ⟨otherForeign, rfl⟩]

/-- A token that is no number is none without the blanks around it either. -/
theorem parse_text_parse (text : Text) : parse (parse text).text = parse text := by
  cases name : parse text with
  | offset value => exact parse_markedHexadecimal value
  | verbatim token =>
      have ⟨foreign, trimmed⟩ := parse_eq_verbatim_iff.mp name
      rw [UnitName.text, ← name, ← trimmed, parse, parse, Numeral.parse?_trim, Text.trim_trim]

theorem parse_canonical :
    (∀ text other, parse text = parse other ↔ SameProgram text other) ∧
      (∀ text, parse (parse text).text = parse text) ∧
      ∀ list : ListOffset, ListOffset.parse? list.text = some list :=
  ⟨fun _ _ => parse_eq_parse_iff, parse_text_parse, ListOffset.parse?_text⟩

/-- A number of more than 64 bits is kept as it is spelled. -/
example : parse " 0x10000000000000000".toList ≠ parse "18446744073709551616".toList := by
  decide

end UnitName

end LiveRange
