import LiveRange.Proofs.Numeral
import LiveRange.Text.Lines
import Mathlib.Data.Nat.Digits.Defs

/-! All spellings of a number, and that every one of them is read as that number. -/

namespace LiveRange.Numeral

/-- The marks a number may have, and the bases they stand for. -/
inductive Radix.Marks : Radix → Text → Nat → Prop
  | bare : Marks .decimal [] 10
  | bareHexadecimal : Marks .hexadecimal [] 16
  | hexadecimal (radix : Radix) {x : Char} (either : x = 'x' ∨ x = 'X') : Marks radix ['0', x] 16
  | octal {o : Char} (either : o = 'o' ∨ o = 'O') : Marks .decimal ['0', o] 8
  | binary {b : Char} (either : b = 'b' ∨ b = 'B') : Marks .decimal ['0', b] 2

/-- The character is this digit of the base, in lower or in upper case. -/
def Writes (base : Nat) (c : Char) (digit : Nat) : Prop :=
  digit < base ∧ (c = Nat.digitChar digit ∨ c = (Nat.digitChar digit).toUpper)

/-- A mark and one or more digits, any number of zeros first, that make up the value. -/
inductive Spells (radix : Radix) : Text → UInt64 → Prop
  | intro {mark : Text} {base : Nat} {written : Text} {digits : List Nat} {value : UInt64}
      (marked : radix.Marks mark base) (nonempty : digits ≠ [])
      (spelled : List.Forall₂ (Writes base) written digits)
      (valued : Nat.ofDigits base digits.reverse = value.toNat) :
      Spells radix (mark ++ written) value

/-- Two spellings of one number. -/
def Respells (radix : Radix) (token other : Text) : Prop :=
  ∃ value, Spells radix token value ∧ Spells radix other value

/-- One number of one row is spelled another way. The place of the number is told by the rows before
it and by what stands around it in its own. -/
inductive RespelledAt (radix : Radix) (place : List Text → Text → Text → Text → Prop)
    (dump other : Text) : Prop
  | intro {before after : List Text} {front token respelling back : Text}
      (rows : dump.lines = before ++ (front ++ (token ++ back)) :: after)
      (otherRows : other.lines = before ++ (front ++ (respelling ++ back)) :: after)
      (stands : place before front token back) (respells : Respells radix token respelling)

/-- The characters a spelling may consist of. -/
def Radix.admits : Radix → Char → Bool
  | .decimal, c => isHexDigit c || "xXoO".toList.contains c
  | .hexadecimal, c => isHexDigit c || "xX".toList.contains c

section Digits

variable {base digit : Nat} {c : Char}

theorem Radix.Marks.base_le {radix : Radix} {mark : Text} (marked : radix.Marks mark base) :
    base ≤ 16 := by
  cases marked <;> decide

theorem Writes.digit? (small : base ≤ 16) (writes : Writes base c digit) :
    digit? base c = some digit := by
  obtain ⟨below, either⟩ := writes
  have each : ∀ value : Fin 16, hexDigit? (Nat.digitChar value) = some value.val ∧
      hexDigit? (Nat.digitChar value).toUpper = some value.val := by
    decide
  obtain ⟨lower, upper⟩ := each ⟨digit, by omega⟩
  have read : hexDigit? c = some digit := by
    rcases either with rfl | rfl
    · exact lower
    · exact upper
  rw [Numeral.digit?, read]
  simpa using below

theorem Writes.isHexDigit (small : base ≤ 16) (writes : Writes base c digit) :
    isHexDigit c = true := by
  have read := writes.digit? small
  rw [Numeral.digit?, Option.filter_eq_some_iff] at read
  rw [Numeral.isHexDigit, read.1]
  rfl

theorem foldlM_of_writes {written : Text} {digits : List Nat} (small : base ≤ 16)
    (spelled : List.Forall₂ (Writes base) written digits) (value : Nat) :
    written.foldlM (fun read c => (Numeral.digit? base c).map (base * read + ·)) value =
      some (digits.foldl (fun read digit => base * read + digit) value) := by
  induction spelled generalizing value with
  | nil => rfl
  | cons writes _ ih =>
      rw [List.foldlM_cons, writes.digit? small, List.foldl_cons]
      exact ih _

theorem ofDigits_reverse (base : Nat) (digits : List Nat) :
    Nat.ofDigits base digits.reverse =
      digits.foldl (fun read digit => base * read + digit) 0 := by
  rw [Nat.ofDigits_eq_foldr, List.foldr_reverse]
  congr 1
  funext read digit
  exact Nat.add_comm digit (base * read)

end Digits

theorem isDigit_of_writes {digit : Nat} {c : Char} (writes : Writes 10 c digit) :
    c.isDigit = true := by
  obtain ⟨below, either⟩ := writes
  have each : ∀ value : Fin 10, (Nat.digitChar value).isDigit = true ∧
      (Nat.digitChar value).toUpper.isDigit = true := by
    decide
  obtain ⟨lower, upper⟩ := each ⟨digit, below⟩
  rcases either with rfl | rfl
  · exact lower
  · exact upper

theorem exists_writes_of_mem {base : Nat} {written : Text} {digits : List Nat} {c : Char}
    (spelled : List.Forall₂ (Writes base) written digits) (member : c ∈ written) :
    ∃ digit, Writes base c digit := by
  induction spelled with
  | nil => cases member
  | cons writes _ ih =>
      rcases List.mem_cons.mp member with rfl | later
      · exact ⟨_, writes⟩
      · exact ih later

theorem ne_nil_of_writes {base : Nat} {written : Text} {digits : List Nat} (nonempty : digits ≠ [])
    (spelled : List.Forall₂ (Writes base) written digits) : written ≠ [] := by
  cases spelled with
  | nil => exact absurd rfl nonempty
  | cons _ _ => exact List.cons_ne_nil _ _

theorem value?_of_writes {base : Nat} {written : Text} {digits : List Nat} (small : base ≤ 16)
    (nonempty : digits ≠ []) (spelled : List.Forall₂ (Writes base) written digits) :
    value? base written = some (Nat.ofDigits base digits.reverse) := by
  rw [value?, if_neg (ne_nil_of_writes nonempty spelled), foldlM_of_writes small spelled,
    ofDigits_reverse]

/-- Digits cannot be taken for a mark, so a number has one base only. -/
theorem Radix.Marks.split {radix : Radix} {mark : Text} {base : Nat}
    (marked : radix.Marks mark base) {written : Text} {digits : List Nat}
    (spelled : List.Forall₂ (Writes base) written digits) :
    radix.split (mark ++ written) = (base, written) := by
  cases marked with
  | bare =>
      apply split_decimal
      intro c member
      obtain ⟨digit, writes⟩ := exists_writes_of_mem spelled member
      exact isDigit_of_writes writes
  | bareHexadecimal =>
      apply split_hexadecimal
      intro c member
      obtain ⟨digit, writes⟩ := exists_writes_of_mem spelled member
      exact writes.isHexDigit le_rfl
  | hexadecimal radix either => rcases either with rfl | rfl <;> cases radix <;> rfl
  | octal either => rcases either with rfl | rfl <;> rfl
  | binary either => rcases either with rfl | rfl <;> rfl

theorem Radix.admits_of_isHexDigit (radix : Radix) {c : Char} (digit : isHexDigit c = true) :
    radix.admits c = true := by
  cases radix <;> simp [admits, digit]

theorem Radix.Marks.admits {radix : Radix} {mark : Text} {base : Nat}
    (marked : radix.Marks mark base) : ∀ c ∈ mark, radix.admits c = true := by
  cases marked with
  | bare => decide
  | bareHexadecimal => decide
  | hexadecimal radix either => cases radix <;> rcases either with rfl | rfl <;> decide
  | octal either => rcases either with rfl | rfl <;> decide
  | binary either => rcases either with rfl | rfl <;> decide

theorem Radix.isBlank_of_admits {radix : Radix} {c : Char} (admitted : radix.admits c = true) :
    isBlank c = false := by
  have letters : ∀ letter ∈ "xXoO".toList, isBlank letter = false := by decide
  have hexLetters : ∀ letter ∈ "xX".toList, isBlank letter = false := by decide
  cases radix with
  | decimal =>
      rw [admits, Bool.or_eq_true, List.contains_iff_mem] at admitted
      exact admitted.elim isBlank_of_isHexDigit (letters c)
  | hexadecimal =>
      rw [admits, Bool.or_eq_true, List.contains_iff_mem] at admitted
      exact admitted.elim isBlank_of_isHexDigit (hexLetters c)

section Marked

variable {radix : Radix} {mark written : Text} {base : Nat} {digits : List Nat}
  (marked : radix.Marks mark base) (spelled : List.Forall₂ (Writes base) written digits)

include marked spelled

theorem Radix.Marks.admits_append : ∀ c ∈ mark ++ written, radix.admits c = true := by
  intro c member
  rcases List.mem_append.mp member with front | back
  · exact marked.admits c front
  · obtain ⟨digit, writes⟩ := exists_writes_of_mem spelled back
    exact Radix.admits_of_isHexDigit radix (writes.isHexDigit marked.base_le)

variable (nonempty : digits ≠ [])

include nonempty

theorem Radix.Marks.isWord_append : Text.IsWord (mark ++ written) :=
  ⟨List.append_ne_nil_of_right_ne_nil _ (ne_nil_of_writes nonempty spelled),
    fun c member => Radix.isBlank_of_admits (marked.admits_append spelled c member)⟩

theorem Radix.Marks.parse?_append :
    parse? radix (mark ++ written) = word? (Nat.ofDigits base digits.reverse) := by
  have trimmed := (marked.isWord_append spelled nonempty).isTrimmed.trim
  rw [parse?, trimmed, marked.split spelled]
  simp only [value?_of_writes marked.base_le nonempty spelled, Option.bind_some]

end Marked

namespace Spells

variable {radix : Radix} {token : Text} {value : UInt64}

theorem admits (spells : Spells radix token value) : ∀ c ∈ token, radix.admits c = true := by
  obtain ⟨marked, nonempty, spelled, valued⟩ := spells
  exact marked.admits_append spelled

theorem isWord (spells : Spells radix token value) : token.IsWord := by
  obtain ⟨marked, nonempty, spelled, valued⟩ := spells
  exact marked.isWord_append spelled nonempty

theorem parse? (spells : Spells radix token value) : Numeral.parse? radix token = some value := by
  obtain ⟨marked, nonempty, spelled, valued⟩ := spells
  rw [marked.parse?_append spelled nonempty, valued, word?_toNat]

end Spells

theorem Respells.parse?_eq {radix : Radix} {token other : Text}
    (respells : Respells radix token other) : parse? radix token = parse? radix other := by
  obtain ⟨value, spells, spellsOther⟩ := respells
  rw [spells.parse?, spellsOther.parse?]

theorem getElem?_append_cons_of_ne {α : Type} {before after : List α} {item other : α}
    {position : Nat} (differ : position ≠ before.length) :
    (before ++ item :: after)[position]? = (before ++ other :: after)[position]? := by
  rw [List.getElem?_append, List.getElem?_append]
  split_ifs with inside
  · rfl
  · obtain ⟨k, behind⟩ : ∃ k, position - before.length = k + 1 :=
      ⟨position - before.length - 1, by omega⟩
    rw [behind, List.getElem?_cons_succ, List.getElem?_cons_succ]

/-- Wherever a number is read among words, it is the same in another spelling. -/
theorem Respells.number_at {radix : Radix} {token other : Text}
    (respells : Respells radix token other) (before after : List Text) (position : Nat) :
    (before ++ token :: after)[position]?.bind (parse? radix) =
      (before ++ other :: after)[position]?.bind (parse? radix) := by
  by_cases here : position = before.length
  · simp [here, respells.parse?_eq]
  · rw [getElem?_append_cons_of_ne here]

end LiveRange.Numeral

namespace LiveRange

/-- Every spelling of an offset names the same program. -/
theorem UnitName.parse_of_respells {token other : Text}
    (respells : Numeral.Respells .decimal token other) : parse token = parse other := by
  obtain ⟨value, spells, spellsOther⟩ := respells
  rw [parse, parse, spells.parse?, spellsOther.parse?]

theorem ListOffset.parse?_of_respells {token other : Text}
    (respells : Numeral.Respells .decimal token other) : parse? token = parse? other := by
  rw [parse?, parse?, respells.parse?_eq]

end LiveRange
