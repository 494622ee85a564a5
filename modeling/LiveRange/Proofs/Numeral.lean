import LiveRange.LocationList.Offset
import LiveRange.Proofs.Text.Words
import LiveRange.UnitName
import Mathlib.Data.Nat.Notation

/-! Numbers printed in a base are read back, padded with zeros or marked. -/

namespace LiveRange.Numeral

/-- Filled up with zeros in front, as tables of addresses print numbers. -/
def padded (width : Nat) (value : UInt64) : Text :=
  List.replicate (width - (hexadecimal value).length) '0' ++ hexadecimal value

theorem mem_toDigits {base value : Nat} {c : Char} (large : 1 < base)
    (member : c ∈ Nat.toDigits base value) : ∃ digit < base, c = Nat.digitChar digit := by
  induction value using Nat.strong_induction_on with
  | _ value ih =>
      by_cases small : value < base
      · rw [Nat.toDigits_of_lt_base small, List.mem_singleton] at member
        exact ⟨value, small, member⟩
      · have reached : base ≤ value := Nat.le_of_not_lt small
        rw [Nat.toDigits_of_base_le large reached, List.mem_append, List.mem_singleton] at member
        rcases member with earlier | last
        · have less : value / base < value := Nat.div_lt_self (by omega) large
          exact ih _ less earlier
        · exact ⟨value % base, Nat.mod_lt value (by omega), last⟩

theorem digit?_digitChar {base digit : Nat} (small : base ≤ 16) (below : digit < base) :
    digit? base (Nat.digitChar digit) = some digit := by
  have each : ∀ value : Fin 16, hexDigit? (Nat.digitChar value) = some value.val := by decide
  have here := each ⟨digit, by omega⟩
  rw [digit?, here]
  simpa using below

/-- Reading goes on from the value of the digits before. -/
theorem foldlM_toDigits {base : Nat} (large : 1 < base) (small : base ≤ 16) (value : Nat) :
    (Nat.toDigits base value).foldlM
      (fun read c => (digit? base c).map (base * read + ·)) 0 = some value := by
  induction value using Nat.strong_induction_on with
  | _ value ih =>
      by_cases single : value < base
      · rw [Nat.toDigits_of_lt_base single]
        simp [digit?_digitChar small single]
      · have reached : base ≤ value := Nat.le_of_not_lt single
        have less : value / base < value := Nat.div_lt_self (by omega) large
        have last : value % base < base := Nat.mod_lt value (by omega)
        rw [Nat.toDigits_of_base_le large reached, List.foldlM_append, ih _ less]
        simp [digit?_digitChar small last, Nat.div_add_mod]

theorem value?_toDigits {base : Nat} (large : 1 < base) (small : base ≤ 16) (value : Nat) :
    value? base (Nat.toDigits base value) = some value := by
  rw [value?, if_neg Nat.toDigits_ne_nil, foldlM_toDigits large small]

theorem value?_zeros_append {base count value : Nat} (large : 1 < base) (small : base ≤ 16) :
    value? base (List.replicate count '0' ++ Nat.toDigits base value) = some value := by
  have zeros : (List.replicate count '0').foldlM
      (fun read c => (digit? base c).map (base * read + ·)) 0 = some 0 := by
    have zero : digit? base '0' = some 0 := digit?_digitChar small (by omega : 0 < base)
    induction count with
    | zero => rfl
    | succ count ih => simpa [List.replicate_succ, zero] using ih
  rw [value?, if_neg (by simp [Nat.toDigits_ne_nil]), List.foldlM_append, zeros]
  exact foldlM_toDigits large small value

theorem word?_toNat (value : UInt64) : word? value.toNat = some value :=
  word?_eq_some_iff.mpr rfl

/-- A hexadecimal digit by its code. -/
theorem code_of_isHexDigit {c : Char} (digit : isHexDigit c = true) :
    48 ≤ c.toNat ∧ c.toNat ≤ 57 ∨ 65 ≤ c.toNat ∧ c.toNat ≤ 70 ∨ 97 ≤ c.toNat ∧ c.toNat ≤ 102 := by
  rw [isHexDigit, hexDigit?] at digit
  split_ifs at digit with decimal lower upper
  · exact Or.inl decimal
  · exact Or.inr (Or.inr lower)
  · exact Or.inr (Or.inl upper)
  · cases digit

theorem isBlank_of_isHexDigit {c : Char} (digit : isHexDigit c = true) : isBlank c = false := by
  have code := code_of_isHexDigit digit
  rw [isBlank, ← Bool.not_eq_true]
  simp only [Bool.or_eq_true, Bool.and_eq_true, decide_eq_true_eq, beq_iff_eq]
  omega

theorem isHexDigit_digitChar {digit : Nat} (small : digit < 16) :
    isHexDigit (Nat.digitChar digit) = true := by
  have each : ∀ value : Fin 16, isHexDigit (Nat.digitChar value) = true := by decide
  exact each ⟨digit, small⟩

theorem mem_hexadecimal {value : UInt64} {c : Char} (member : c ∈ hexadecimal value) :
    ∃ digit < 16, c = Nat.digitChar digit :=
  mem_toDigits (by omega) member

theorem isHexDigit_of_mem_hexadecimal {value : UInt64} {c : Char}
    (member : c ∈ hexadecimal value) : isHexDigit c = true := by
  obtain ⟨digit, small, rfl⟩ := mem_hexadecimal member
  exact isHexDigit_digitChar small

theorem notMem_hexadecimal {c : Char} (other : isHexDigit c = false) (value : UInt64) :
    c ∉ hexadecimal value := by
  intro member
  rw [isHexDigit_of_mem_hexadecimal member] at other
  cases other

theorem isHexDigit_of_mem_padded {width : Nat} {value : UInt64} {c : Char}
    (member : c ∈ padded width value) : isHexDigit c = true := by
  rcases List.mem_append.mp member with zero | digit
  · rw [List.eq_of_mem_replicate zero]
    decide
  · exact isHexDigit_of_mem_hexadecimal digit

theorem notMem_padded {c : Char} (other : isHexDigit c = false) (width : Nat) (value : UInt64) :
    c ∉ padded width value := by
  intro member
  rw [isHexDigit_of_mem_padded member] at other
  cases other

theorem isWord_of_digits {digits : Text} (nonempty : digits ≠ [])
    (inside : ∀ c ∈ digits, isHexDigit c = true) : digits.IsWord :=
  ⟨nonempty, fun c member => isBlank_of_isHexDigit (inside c member)⟩

theorem isWord_padded (width : Nat) (value : UInt64) : (padded width value).IsWord :=
  isWord_of_digits (by simp [padded, hexadecimal, Nat.toDigits_ne_nil])
    fun _ member => isHexDigit_of_mem_padded member

theorem split_hexadecimal {digits : Text} (inside : ∀ c ∈ digits, isHexDigit c = true) :
    Radix.split .hexadecimal digits = (16, digits) := by
  have lower : 'x' ∉ digits := fun member => absurd (inside 'x' member) (by decide)
  have upper : 'X' ∉ digits := fun member => absurd (inside 'X' member) (by decide)
  unfold Radix.split
  split <;> simp_all

theorem split_decimal {digits : Text} (inside : ∀ c ∈ digits, c.isDigit = true) :
    Radix.split .decimal digits = (10, digits) := by
  have others : ∀ c ∈ ['x', 'X', 'o', 'O', 'b', 'B'], c.isDigit = false := by decide
  have unmarked : ∀ c ∈ ['x', 'X', 'o', 'O', 'b', 'B'], c ∉ digits := by
    intro c mark member
    have digit := inside c member
    rw [others c mark] at digit
    cases digit
  unfold Radix.split
  split <;> simp_all

theorem parse?_padded (width : Nat) (value : UInt64) :
    parse? .hexadecimal (padded width value) = some value := by
  rw [parse?, (isWord_padded width value).isTrimmed.trim,
    split_hexadecimal fun _ member => isHexDigit_of_mem_padded member]
  simp only [padded, hexadecimal]
  rw [value?_zeros_append (by omega) (by omega), Option.bind_some, word?_toNat]

/-- No number starts with a character that is no digit. -/
theorem parse?_hexadecimal_cons {c : Char} {rest : Text} (other : isHexDigit c = false)
    (solid : Text.IsWord (c :: rest)) : parse? .hexadecimal (c :: rest) = none := by
  have nonzero : c ≠ '0' := by
    rintro rfl
    cases other
  have unmarked : Radix.split .hexadecimal (c :: rest) = (16, c :: rest) := by
    unfold Radix.split
    split <;> simp_all
  have nothing : digit? 16 c = none := by
    rw [isHexDigit, Option.isSome_eq_false_iff, Option.isNone_iff_eq_none] at other
    rw [digit?, other]
    rfl
  rw [parse?, solid.isTrimmed.trim, unmarked]
  simp [value?, nothing]

theorem isDigit_of_mem_decimal {value : UInt64} {c : Char} (member : c ∈ decimal value) :
    c.isDigit = true :=
  Nat.isDigit_of_mem_toDigits (by omega) (by omega) member

theorem isHexDigit_of_mem_decimal {value : UInt64} {c : Char} (member : c ∈ decimal value) :
    isHexDigit c = true := by
  obtain ⟨digit, small, rfl⟩ := mem_toDigits (by omega) member
  exact isHexDigit_digitChar (by omega)

theorem isWord_decimal (value : UInt64) : (decimal value).IsWord :=
  isWord_of_digits Nat.toDigits_ne_nil fun _ member => isHexDigit_of_mem_decimal member

theorem parse?_decimal (value : UInt64) : parse? .decimal (decimal value) = some value := by
  rw [parse?, (isWord_decimal value).isTrimmed.trim,
    split_decimal fun _ member => isDigit_of_mem_decimal member]
  simp only [decimal]
  rw [value?_toDigits (by omega) (by omega), Option.bind_some, word?_toNat]

theorem isWord_markedHexadecimal (value : UInt64) : (markedHexadecimal value).IsWord := by
  refine ⟨List.cons_ne_nil _ _, ?_⟩
  intro c member
  rw [markedHexadecimal, List.mem_cons, List.mem_cons] at member
  rcases member with rfl | rfl | digit
  · rfl
  · rfl
  · exact isBlank_of_isHexDigit (isHexDigit_of_mem_hexadecimal digit)

theorem parse?_markedHexadecimal (radix : Radix) (value : UInt64) :
    parse? radix (markedHexadecimal value) = some value := by
  rw [parse?, (isWord_markedHexadecimal value).isTrimmed.trim]
  have marked : radix.split (markedHexadecimal value) = (16, hexadecimal value) := by
    cases radix <;> rfl
  rw [marked]
  simp only [hexadecimal]
  rw [value?_toDigits (by omega) (by omega), Option.bind_some, word?_toNat]

end LiveRange.Numeral

namespace LiveRange

theorem UnitName.parse_markedHexadecimal (value : UInt64) :
    UnitName.parse (Numeral.markedHexadecimal value) = .offset value := by
  rw [UnitName.parse, Numeral.parse?_markedHexadecimal]

theorem ListOffset.parse?_text (list : ListOffset) : ListOffset.parse? list.text = some list := by
  rw [ListOffset.parse?, ListOffset.text, Numeral.parse?_markedHexadecimal]
  rfl

end LiveRange
