import LiveRange.Proofs.Numeral.Spelling
import LiveRange.Proofs.Text.Margins

/-! A number is read from its spellings and from nothing else: the digits of a text that is read
are those of a spelling, and a number of more than 64 bits is not read at all. -/

namespace LiveRange.Numeral

/-- Between blanks stand a mark and one or more digits of its base. The number they make up may be
of any size. -/
inductive Denotes (radix : Radix) : Text → Nat → Prop
  | intro {before mark written after : Text} {base : Nat} {digits : List Nat}
      (indented : before.Blank) (trailed : after.Blank) (marked : radix.Marks mark base)
      (nonempty : digits ≠ []) (spelled : List.Forall₂ (Writes base) written digits) :
      Denotes radix (before ++ (mark ++ written ++ after)) (Nat.ofDigits base digits.reverse)

section Digits

variable {base : Nat} (small : base ≤ 16)

include small

theorem digit?_eq_some_iff {digit : Nat} {c : Char} :
    digit? base c = some digit ↔ Writes base c digit := by
  constructor
  · intro read
    rw [digit?, Option.filter_eq_some_iff, decide_eq_true_eq] at read
    obtain ⟨here, below⟩ := read
    have each : ∀ code < 103, ∀ digit ∈ hexDigit? (Char.ofNat code),
        Char.ofNat code = Nat.digitChar digit ∨
          Char.ofNat code = (Nat.digitChar digit).toUpper := by
      decide
    have code := code_of_isHexDigit (by rw [isHexDigit, here]; rfl : isHexDigit c = true)
    have spelled := each c.toNat (by omega) digit
    rw [Char.ofNat_toNat] at spelled
    exact ⟨below, spelled here⟩
  · exact Writes.digit? small

theorem exists_writes_of_foldlM {written : Text} {start number : Nat}
    (read : written.foldlM (fun value c => (digit? base c).map (base * value + ·)) start =
      some number) :
    ∃ digits, List.Forall₂ (Writes base) written digits ∧
      digits.foldl (fun value digit => base * value + digit) start = number := by
  induction written generalizing start with
  | nil => exact ⟨[], .nil, Option.some.inj read⟩
  | cons c written ih =>
      rw [List.foldlM_cons, Option.bind_eq_bind, Option.bind_eq_some_iff] at read
      obtain ⟨value, first, later⟩ := read
      obtain ⟨digit, here, rfl⟩ := Option.map_eq_some_iff.mp first
      obtain ⟨digits, spelled, valued⟩ := ih later
      exact ⟨digit :: digits, .cons ((digit?_eq_some_iff small).mp here) spelled, valued⟩

theorem exists_writes_of_value? {written : Text} {number : Nat}
    (read : value? base written = some number) :
    ∃ digits, digits ≠ [] ∧ List.Forall₂ (Writes base) written digits ∧
      Nat.ofDigits base digits.reverse = number := by
  rw [value?] at read
  split_ifs at read with nothing
  obtain ⟨digits, spelled, valued⟩ := exists_writes_of_foldlM small read
  refine ⟨digits, ?_, spelled, (ofDigits_reverse base digits).trans valued⟩
  rintro rfl
  cases spelled
  exact nothing rfl

theorem value?_eq_some_iff {written : Text} {number : Nat} :
    value? base written = some number ↔
      ∃ digits, digits ≠ [] ∧ List.Forall₂ (Writes base) written digits ∧
        Nat.ofDigits base digits.reverse = number := by
  constructor
  · exact exists_writes_of_value? small
  · rintro ⟨digits, nonempty, spelled, rfl⟩
    exact value?_of_writes small nonempty spelled

end Digits

/-- Decimal digits behind at most one plus sign, which make up the value. -/
inductive SpellsSigned : Text → UInt64 → Prop
  | intro {sign written : Text} {digits : List Nat} {value : UInt64}
      (signed : sign = [] ∨ sign = ['+']) (nonempty : digits ≠ [])
      (spelled : List.Forall₂ (Writes 10) written digits)
      (valued : Nat.ofDigits 10 digits.reverse = value.toNat) :
      SpellsSigned (sign ++ written) value

theorem bind_word?_eq_some_iff {written : Text} {value : UInt64} :
    (value? 10 written).bind word? = some value ↔ ∃ digits, digits ≠ [] ∧
      List.Forall₂ (Writes 10) written digits ∧ Nat.ofDigits 10 digits.reverse = value.toNat := by
  simp only [Option.bind_eq_some_iff, word?_eq_some_iff, exists_eq_right,
    value?_eq_some_iff (by omega : 10 ≤ 16)]

theorem signed?_of_unsigned {text : Text} (unsigned : '+' ∉ text.head?) :
    signed? text = (value? 10 text).bind word? := by
  fun_cases signed? text with
  | case1 digits => exact absurd rfl unsigned
  | case2 => rfl

theorem unsigned_of_writes {written : Text} {digits : List Nat}
    (spelled : List.Forall₂ (Writes 10) written digits) : '+' ∉ written.head? := by
  intro signed
  obtain ⟨digit, writes⟩ := exists_writes_of_mem spelled (List.mem_of_mem_head? signed)
  exact absurd (isDigit_of_writes writes) (by decide)

theorem signed?_eq_some_iff {text : Text} {value : UInt64} :
    signed? text = some value ↔ SpellsSigned text value := by
  constructor
  · intro read
    by_cases signed : '+' ∈ text.head?
    · obtain ⟨written, rfl⟩ := List.head?_eq_some_iff.mp signed
      obtain ⟨digits, nonempty, spelled, valued⟩ := bind_word?_eq_some_iff.mp read
      exact .intro (.inr rfl) nonempty spelled valued
    · rw [signed?_of_unsigned signed, bind_word?_eq_some_iff] at read
      obtain ⟨digits, nonempty, spelled, valued⟩ := read
      exact .intro (.inl rfl) nonempty spelled valued
  · rintro ⟨rfl | rfl, nonempty, spelled, valued⟩
    · rw [List.nil_append, signed?_of_unsigned (unsigned_of_writes spelled)]
      exact bind_word?_eq_some_iff.mpr ⟨_, nonempty, spelled, valued⟩
    · exact bind_word?_eq_some_iff.mpr ⟨_, nonempty, spelled, valued⟩

theorem Radix.exists_marks (radix : Radix) (token : Text) :
    ∃ mark, radix.Marks mark (radix.split token).1 ∧ token = mark ++ (radix.split token).2 := by
  fun_cases Radix.split radix token with
  | case1 digits => exact ⟨['0', 'x'], .hexadecimal radix (.inl rfl), rfl⟩
  | case2 digits => exact ⟨['0', 'X'], .hexadecimal radix (.inr rfl), rfl⟩
  | case3 digits => exact ⟨['0', 'o'], .octal (.inl rfl), rfl⟩
  | case4 digits => exact ⟨['0', 'O'], .octal (.inr rfl), rfl⟩
  | case5 digits => exact ⟨['0', 'b'], .binary (.inl rfl), rfl⟩
  | case6 digits => exact ⟨['0', 'B'], .binary (.inr rfl), rfl⟩
  | case7 => exact ⟨[], .bare, rfl⟩
  | case8 => exact ⟨[], .bareHexadecimal, rfl⟩

section Reading

variable {radix : Radix} {text : Text}

theorem word?_eq_none_iff {number : Nat} : word? number = none ↔ 2 ^ 64 ≤ number := by
  rw [word?]
  split_ifs with fits <;> simp only [UInt64.size] at fits
  · simpa using fits
  · simpa using fits

theorem Denotes.parse? {number : Nat} (denotes : Denotes radix text number) :
    Numeral.parse? radix text = word? number := by
  obtain ⟨indented, trailed, marked, nonempty, spelled⟩ := denotes
  rw [← marked.parse?_append spelled nonempty, Numeral.parse?, Numeral.parse?,
    Text.trim_append_blank indented, Text.trim_append_blank_right trailed]

theorem denotes_of_parse? {value : UInt64} (read : parse? radix text = some value) :
    Denotes radix text value.toNat := by
  have ⟨before, after, indented, trailed, whole⟩ := Text.exists_eq_append_trim text
  have ⟨mark, marked, split⟩ := radix.exists_marks text.trim
  obtain ⟨number, readDigits, fits⟩ := Option.bind_eq_some_iff.mp read
  obtain ⟨digits, nonempty, spelled, rfl⟩ := exists_writes_of_value? marked.base_le readDigits
  rw [whole, split, ← word?_eq_some_iff.mp fits]
  exact .intro indented trailed marked nonempty spelled

theorem parse?_eq_some_iff {value : UInt64} :
    parse? radix text = some value ↔ Denotes radix text value.toNat :=
  ⟨denotes_of_parse?, fun denotes => denotes.parse?.trans (word?_toNat value)⟩

theorem parse?_eq_none_iff :
    parse? radix text = none ↔ ∀ number, Denotes radix text number → 2 ^ 64 ≤ number := by
  constructor
  · intro unread number denotes
    rw [denotes.parse?] at unread
    exact word?_eq_none_iff.mp unread
  · intro large
    rw [Option.eq_none_iff_forall_ne_some]
    intro value read
    exact absurd value.toNat_lt (Nat.not_lt.mpr (large _ (denotes_of_parse? read)))

end Reading

/-- Exactly the numbers of 64 bits are read, each from all of its spellings. What is printed is
read back: decimal digits, marked hexadecimal ones, and those filled up with zeros. -/
theorem parse?_reads_spellings (radix : Radix) (text : Text) :
    (∀ value, parse? radix text = some value ↔ Denotes radix text value.toNat) ∧
      (parse? radix text = none ↔ ∀ number, Denotes radix text number → 2 ^ 64 ≤ number) ∧
      ∀ value, parse? .decimal (decimal value) = some value ∧
        parse? radix (markedHexadecimal value) = some value ∧
        ∀ width, parse? .hexadecimal (padded width value) = some value :=
  ⟨fun _ => parse?_eq_some_iff, parse?_eq_none_iff, fun value =>
    ⟨parse?_decimal value, parse?_markedHexadecimal radix value, (parse?_padded · value)⟩⟩

/-- A default of sixteen takes the mark of base two for digits. -/
example : parse? .hexadecimal "0b10".toList = some 0xb10 ∧
    parse? .decimal "0b10".toList = some 2 := by
  decide

end LiveRange.Numeral
