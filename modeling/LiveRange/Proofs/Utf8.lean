import LiveRange.Utf8
import Mathlib.Tactic.SplitIfs

/-! The encoding of a text is read back character by character. -/

namespace LiveRange.Utf8

/-- The bytes that complete an open character, and the number of the character then. -/
inductive Completes : Opened → Bytes → Nat → Prop
  | last {opened : Opened} {byte : UInt8} (above : opened.low ≤ byte) (below : byte ≤ opened.high)
      (single : opened.owed ≤ 1) :
      Completes opened [byte] (64 * opened.bits + byte.toNat % 64)
  | more {opened : Opened} {byte : UInt8} {rest : Bytes} {value : Nat} (above : opened.low ≤ byte)
      (below : byte ≤ opened.high) (several : ¬ opened.owed ≤ 1)
      (later : Completes { bits := 64 * opened.bits + byte.toNat % 64, read := opened.read + 1,
                           owed := opened.owed - 1 } rest value) :
      Completes opened (byte :: rest) value

theorem Completes.pieces_append {opened : Opened} {tail : Bytes} {value : Nat}
    (completes : Completes opened tail value) (rest : Bytes) :
    pieces (some opened) (tail ++ rest) = .char (Char.ofNat value) :: pieces none rest := by
  induction completes with
  | last above below single => simp [pieces, step, above, below, single]
  | more above below several later ih => simpa [pieces, step, above, below, several] using ih

section Completes

variable {bits seen : Nat} {low high : UInt8} {tail : Bytes} {value : Nat}

theorem completes_one_iff :
    Completes ⟨bits, seen, 1, low, high⟩ tail value ↔
      ∃ byte, tail = [byte] ∧ (low ≤ byte ∧ byte ≤ high) ∧ value = 64 * bits + byte.toNat % 64 := by
  constructor
  · rintro (⟨above, below, _⟩ | ⟨_, _, several, _⟩)
    · exact ⟨_, rfl, ⟨above, below⟩, rfl⟩
    · exact absurd (Nat.le_refl 1) several
  · rintro ⟨byte, rfl, ⟨above, below⟩, rfl⟩
    exact .last above below (Nat.le_refl 1)

theorem completes_succ_iff {owed : Nat} :
    Completes ⟨bits, seen, owed + 2, low, high⟩ tail value ↔
      ∃ byte rest, tail = byte :: rest ∧ (low ≤ byte ∧ byte ≤ high) ∧
        Completes ⟨64 * bits + byte.toNat % 64, seen + 1, owed + 1, 0x80, 0xBF⟩ rest value := by
  have several : ¬ owed + 2 ≤ 1 := by omega
  constructor
  · rintro (⟨_, _, single⟩ | ⟨above, below, _, later⟩)
    · exact absurd single several
    · exact ⟨_, _, rfl, ⟨above, below⟩, later⟩
  · rintro ⟨byte, rest, rfl, ⟨above, below⟩, later⟩
    exact .more above below several later

end Completes

section Opened

variable {byte : UInt8} {opened : Opened}

/-- The classes of first bytes, by number. -/
theorem opened?_eq (byte : UInt8) :
    opened? byte =
      let code := byte.toNat
      if 0xC2 ≤ code ∧ code ≤ 0xDF then some { bits := code - 0xC0, read := 1, owed := 1 }
      else if code = 0xE0 then some { bits := 0, read := 1, owed := 2, low := 0xA0 }
      else if code = 0xED then some { bits := 0xD, read := 1, owed := 2, high := 0x9F }
      else if 0xE1 ≤ code ∧ code ≤ 0xEF then some { bits := code - 0xE0, read := 1, owed := 2 }
      else if code = 0xF0 then some { bits := 0, read := 1, owed := 3, low := 0x90 }
      else if 0xF1 ≤ code ∧ code ≤ 0xF3 then some { bits := code - 0xF0, read := 1, owed := 3 }
      else if code = 0xF4 then some { bits := 4, read := 1, owed := 3, high := 0x8F }
      else none := by
  simp only [opened?, UInt8.le_iff_toNat_le, ← UInt8.toNat_inj]
  rfl

theorem opened?_two (lead : 0xC2 ≤ byte.toNat ∧ byte.toNat ≤ 0xDF) :
    opened? byte = some { bits := byte.toNat - 0xC0, read := 1, owed := 1 } := by
  rw [opened?_eq]
  exact if_pos lead

/-- The least and the greatest first byte of this length narrow the next one. -/
theorem opened?_three (lead : 0xE0 ≤ byte.toNat ∧ byte.toNat ≤ 0xEF) :
    opened? byte = some { bits := byte.toNat - 0xE0, read := 1, owed := 2,
                          low := if byte.toNat = 0xE0 then 0xA0 else 0x80,
                          high := if byte.toNat = 0xED then 0x9F else 0xBF } := by
  rw [opened?_eq]
  simp only
  split_ifs <;> first | omega | simp_all

theorem opened?_four (lead : 0xF0 ≤ byte.toNat ∧ byte.toNat ≤ 0xF4) :
    opened? byte = some { bits := byte.toNat - 0xF0, read := 1, owed := 3,
                          low := if byte.toNat = 0xF0 then 0x90 else 0x80,
                          high := if byte.toNat = 0xF4 then 0x8F else 0xBF } := by
  rw [opened?_eq]
  simp only
  split_ifs <;> first | omega | simp_all

theorem lead_of_opened? (opens : opened? byte = some opened) :
    0xC2 ≤ byte.toNat ∧ byte.toNat ≤ 0xF4 := by
  rw [opened?_eq] at opens
  simp only at opens
  split_ifs at opens <;> omega

end Opened

theorem within_iff {low high byte : UInt8} :
    low ≤ byte ∧ byte ≤ high ↔ low.toNat ≤ byte.toNat ∧ byte.toNat ≤ high.toNat := by
  rw [UInt8.le_iff_toNat_le, UInt8.le_iff_toNat_le]

theorem continues_iff {byte : UInt8} :
    0x80 ≤ byte ∧ byte ≤ 0xBF ↔ 0x80 ≤ byte.toNat ∧ byte.toNat ≤ 0xBF := within_iff

theorem narrowed_iff {least greatest : Prop} [Decidable least] [Decidable greatest]
    {low high byte : UInt8} (above : 0x80 ≤ low.toNat) (below : high.toNat ≤ 0xBF) :
    ((if least then low else 0x80) ≤ byte ∧ byte ≤ if greatest then high else 0xBF) ↔
      (0x80 ≤ byte.toNat ∧ byte.toNat ≤ 0xBF) ∧ (least → low.toNat ≤ byte.toNat) ∧
        (greatest → byte.toNat ≤ high.toNat) := by
  rw [within_iff, apply_ite UInt8.toNat, apply_ite UInt8.toNat]
  change (_ ≤ _ ∧ _ ≤ if greatest then high.toNat else 0xBF) ↔ _
  split_ifs with first last <;> simp [*] <;> omega

section Encoding

variable {first second third fourth : UInt8} {value : Nat}

theorem toNat_ofNat (valid : value < 0xD800 ∨ 0xDFFF < value ∧ value < 0x110000) :
    (Char.ofNat value).val.toNat = value := by
  have known : value.isValidChar := valid
  rw [Char.ofNat, dif_pos known]
  rfl

theorem eq_ofNat {byte : UInt8} (same : byte.toNat = value) : UInt8.ofNat value = byte := by
  rw [← same, UInt8.ofNat_toNat]

theorem encode_two (lead : 0xC2 ≤ first.toNat ∧ first.toNat ≤ 0xDF)
    (next : 0x80 ≤ second.toNat ∧ second.toNat ≤ 0xBF)
    (spelled : value = 64 * (first.toNat - 0xC0) + second.toNat % 64) :
    String.utf8EncodeChar (Char.ofNat value) = [first, second] := by
  simp only [String.utf8EncodeChar, @toNat_ofNat value (by omega)]
  rw [if_neg (by omega), if_pos (by omega), @eq_ofNat _ first (by omega),
    @eq_ofNat _ second (by omega)]

theorem encode_three (lead : 0xE0 ≤ first.toNat ∧ first.toNat ≤ 0xEF)
    (next : 0x80 ≤ second.toNat ∧ second.toNat ≤ 0xBF)
    (last : 0x80 ≤ third.toNat ∧ third.toNat ≤ 0xBF)
    (spelled : value = 64 * (64 * (first.toNat - 0xE0) + second.toNat % 64) + third.toNat % 64)
    (long : 0x800 ≤ value) (valid : value < 0xD800 ∨ 0xDFFF < value) :
    String.utf8EncodeChar (Char.ofNat value) = [first, second, third] := by
  simp only [String.utf8EncodeChar, @toNat_ofNat value (by omega)]
  rw [if_neg (by omega), if_neg (by omega), if_pos (by omega), @eq_ofNat _ first (by omega),
    @eq_ofNat _ second (by omega), @eq_ofNat _ third (by omega)]

theorem encode_four (lead : 0xF0 ≤ first.toNat ∧ first.toNat ≤ 0xF4)
    (next : 0x80 ≤ second.toNat ∧ second.toNat ≤ 0xBF)
    (later : 0x80 ≤ third.toNat ∧ third.toNat ≤ 0xBF)
    (last : 0x80 ≤ fourth.toNat ∧ fourth.toNat ≤ 0xBF)
    (spelled : value = 64 * (64 * (64 * (first.toNat - 0xF0) + second.toNat % 64) +
      third.toNat % 64) + fourth.toNat % 64)
    (long : 0x10000 ≤ value) (valid : value < 0x110000) :
    String.utf8EncodeChar (Char.ofNat value) = [first, second, third, fourth] := by
  simp only [String.utf8EncodeChar, @toNat_ofNat value (by omega)]
  rw [if_neg (by omega), if_neg (by omega), if_neg (by omega),
    @eq_ofNat _ first (by omega), @eq_ofNat _ second (by omega),
    @eq_ofNat _ third (by omega), @eq_ofNat _ fourth (by omega)]

/-- Bytes that are read as one character are the encoding of it. -/
theorem encode_of_completes {opened : Opened} {tail : Bytes} (opens : opened? first = some opened)
    (completes : Completes opened tail value) :
    String.utf8EncodeChar (Char.ofNat value) = first :: tail := by
  have lead := lead_of_opened? opens
  by_cases two : first.toNat ≤ 0xDF
  · rw [opened?_two ⟨lead.1, two⟩, Option.some.injEq] at opens
    rw [← opens] at completes
    obtain ⟨second, rfl, next, spelled⟩ := completes_one_iff.mp completes
    exact encode_two ⟨lead.1, two⟩ (within_iff.mp next) spelled
  · by_cases three : first.toNat ≤ 0xEF
    · rw [opened?_three ⟨by omega, three⟩, Option.some.injEq] at opens
      rw [← opens] at completes
      obtain ⟨second, rest, rfl, within, later⟩ := completes_succ_iff.mp completes
      obtain ⟨third, rfl, last, spelled⟩ := completes_one_iff.mp later
      obtain ⟨next, least, greatest⟩ := (narrowed_iff (by decide) (by decide)).mp within
      change _ → 0xA0 ≤ _ at least
      change _ → _ ≤ 0x9F at greatest
      exact encode_three ⟨by omega, three⟩ next (within_iff.mp last) spelled (by omega) (by omega)
    · rw [opened?_four ⟨by omega, lead.2⟩, Option.some.injEq] at opens
      rw [← opens] at completes
      obtain ⟨second, rest, rfl, within, later⟩ := completes_succ_iff.mp completes
      obtain ⟨third, rest, rfl, middle, latest⟩ := completes_succ_iff.mp later
      obtain ⟨fourth, rfl, last, spelled⟩ := completes_one_iff.mp latest
      obtain ⟨next, least, greatest⟩ := (narrowed_iff (by decide) (by decide)).mp within
      change _ → 0x90 ≤ _ at least
      change _ → _ ≤ 0x8F at greatest
      exact encode_four ⟨by omega, lead.2⟩ next (within_iff.mp middle) (within_iff.mp last) spelled
        (by omega) (by omega)

theorem exists_byte (small : value < 256) : ∃ byte : UInt8, byte.toNat = value :=
  ⟨UInt8.ofNat value, Nat.mod_eq_of_lt small⟩

/-- The encoding of a character beyond the first 128 is read as one character. -/
theorem exists_completes_of_long {c : Char} (long : 0x80 ≤ c.toNat) :
    ∃ first opened tail, String.utf8EncodeChar c = first :: tail ∧
      opened? first = some opened ∧ Completes opened tail c.toNat := by
  have known : Char.ofNat c.toNat = c := Char.ofNat_toNat c
  have valid : c.toNat < 0xD800 ∨ 0xDFFF < c.toNat ∧ c.toNat < 0x110000 := c.valid
  generalize c.toNat = value at long known valid
  have last : value % 64 + 0x80 < 256 := by omega
  rw [← known]
  by_cases two : value ≤ 0x7FF
  · obtain ⟨first, lead⟩ := @exists_byte (value / 64 + 0xC0) (by omega)
    obtain ⟨second, next⟩ := exists_byte last
    exact ⟨first, _, [second], encode_two (by omega) (by omega) (by omega), opened?_two (by omega),
      completes_one_iff.mpr ⟨second, rfl, continues_iff.mpr (by omega), by omega⟩⟩
  · by_cases three : value ≤ 0xFFFF
    · obtain ⟨first, lead⟩ := @exists_byte (value / 4096 + 0xE0) (by omega)
      obtain ⟨second, next⟩ := @exists_byte (value / 64 % 64 + 0x80) (by omega)
      obtain ⟨third, ending⟩ := exists_byte last
      have within := (@narrowed_iff (first.toNat = 0xE0) (first.toNat = 0xED) _ _ 0xA0 0x9F second
        (by decide) (by decide)).mpr
      change _ ∧ (_ → 0xA0 ≤ _) ∧ (_ → _ ≤ 0x9F) → _ at within
      exact ⟨first, _, [second, third],
        encode_three (by omega) (by omega) (by omega) (by omega) (by omega) (by omega),
        opened?_three (by omega), completes_succ_iff.mpr ⟨second, [third], rfl, within (by omega),
          completes_one_iff.mpr ⟨third, rfl, continues_iff.mpr (by omega), by omega⟩⟩⟩
    · obtain ⟨first, lead⟩ := @exists_byte (value / 262144 + 0xF0) (by omega)
      obtain ⟨second, next⟩ := @exists_byte (value / 4096 % 64 + 0x80) (by omega)
      obtain ⟨third, later⟩ := @exists_byte (value / 64 % 64 + 0x80) (by omega)
      obtain ⟨fourth, ending⟩ := exists_byte last
      have within := (@narrowed_iff (first.toNat = 0xF0) (first.toNat = 0xF4) _ _ 0x90 0x8F second
        (by decide) (by decide)).mpr
      change _ ∧ (_ → 0x90 ≤ _) ∧ (_ → _ ≤ 0x8F) → _ at within
      exact ⟨first, _, [second, third, fourth],
        encode_four (by omega) (by omega) (by omega) (by omega) (by omega) (by omega) (by omega),
        opened?_four (by omega), completes_succ_iff.mpr ⟨second, _, rfl, within (by omega),
          completes_succ_iff.mpr ⟨third, _, rfl, continues_iff.mpr (by omega),
            completes_one_iff.mpr ⟨fourth, rfl, continues_iff.mpr (by omega), by omega⟩⟩⟩⟩

end Encoding

theorem encodeChar_of_short {c : Char} (short : c.toNat < 0x80) :
    String.utf8EncodeChar c = [UInt8.ofNat c.toNat] :=
  if_pos (Nat.lt_succ_iff.mp short)

theorem toNat_ofNat_of_short {c : Char} (short : c.toNat < 0x80) :
    (UInt8.ofNat c.toNat).toNat = c.toNat :=
  Nat.mod_eq_of_lt (by omega)

theorem encodeChar_ofNat_of_short {byte : UInt8} (short : byte.toNat < 0x80) :
    String.utf8EncodeChar (Char.ofNat byte.toNat) = [byte] := by
  have code : (Char.ofNat byte.toNat).toNat = byte.toNat := toNat_ofNat (Or.inl (by omega))
  rw [encodeChar_of_short (by omega), code, UInt8.ofNat_toNat]

theorem first_of_short {byte : UInt8} (short : byte.toNat < 0x80) :
    first byte = ([.char (Char.ofNat byte.toNat)], none) :=
  if_pos (UInt8.lt_iff_toNat_lt.mpr short)

theorem first_of_long {byte : UInt8} (long : 0x80 ≤ byte.toNat) :
    first byte = match opened? byte with
      | some opened => ([], some opened)
      | none => ([.invalid 1], none) :=
  if_neg fun short => Nat.not_lt.mpr long (UInt8.lt_iff_toNat_lt.mp short)

theorem pieces_of_opened? {byte : UInt8} {opened : Opened} (opens : opened? byte = some opened)
    (rest : Bytes) : pieces none (byte :: rest) = pieces (some opened) rest := by
  have lead := lead_of_opened? opens
  rw [pieces, step, first_of_long (by omega), opens]
  rfl

/-- One character is read from its encoding, and nothing of what follows. -/
theorem pieces_encodeChar_append (c : Char) (rest : Bytes) :
    pieces none (String.utf8EncodeChar c ++ rest) = .char c :: pieces none rest := by
  by_cases short : c.toNat < 0x80
  · have code := toNat_ofNat_of_short short
    rw [encodeChar_of_short short, List.singleton_append, pieces, step,
      first_of_short (by omega), code, Char.ofNat_toNat]
    rfl
  · obtain ⟨byte, opened, tail, encoded, opens, completes⟩ :=
      exists_completes_of_long (Nat.le_of_not_lt short)
    rw [encoded, List.cons_append, pieces_of_opened? opens, completes.pieces_append,
      Char.ofNat_toNat]

theorem encode_cons (c : Char) (text : Text) :
    encode (c :: text) = String.utf8EncodeChar c ++ encode text :=
  List.flatMap_cons

theorem pieces_encode_append (text : Text) (rest : Bytes) :
    pieces none (encode text ++ rest) = text.map .char ++ pieces none rest := by
  induction text with
  | nil => rfl
  | cons c text ih =>
      rw [encode_cons, List.append_assoc, pieces_encodeChar_append, ih, List.map_cons,
        List.cons_append]

end LiveRange.Utf8
