import LiveRange.Proofs.Utf8
import Mathlib.Data.List.Infix

/-! Bytes are decoded exactly when they encode a text. Otherwise they stop being one behind the
longest text that they start with, where a byte breaks off a character or the input ends inside
one. -/

namespace LiveRange.Utf8

/-- Some character starts with the bytes and has more of them. -/
def Partial (bytes : Bytes) : Prop := ∃ c tail, tail ≠ [] ∧ String.utf8EncodeChar c = bytes ++ tail

/-- The longest run that starts a character, which no character goes on with the next byte. A byte
that starts none is a run of its own. -/
inductive BrokenOff : Bytes → Nat → Prop
  | intro {start later : Bytes} {byte : UInt8} (started : Partial start)
      (stopped : ∀ c, ¬ start ++ [byte] <+: String.utf8EncodeChar c) :
      BrokenOff (start ++ byte :: later) (max 1 start.length)

/-- No longer text is at the start of the bytes. -/
structure LongestText (bytes : Bytes) (text : Text) (rest : Bytes) : Prop where
  split : bytes = encode text ++ rest
  longest : ∀ other, encode other <+: bytes → (encode other).length ≤ (encode text).length

/-- What keeps bytes from being a text. -/
inductive Fault.At (bytes : Bytes) : Fault → Prop
  | invalid {text : Text} {rest : Bytes} {length : Nat} (longest : LongestText bytes text rest)
      (broken : BrokenOff rest length) : At bytes (.invalid length (encode text).length)
  | incomplete {text : Text} {rest : Bytes} (longest : LongestText bytes text rest)
      (nonempty : rest ≠ []) (inside : Partial rest) : At bytes (.incomplete (encode text).length)

/-- The bytes read with a replacement character for each run that fits no character. -/
inductive Replaced : Bytes → Text → Prop
  | whole (text : Text) : Replaced (encode text) text
  | invalid {text others : Text} {rest : Bytes} {length : Nat} (broken : BrokenOff rest length)
      (later : Replaced (rest.drop length) others) :
      Replaced (encode text ++ rest) (text ++ '\uFFFD' :: others)
  | incomplete {text : Text} {rest : Bytes} (nonempty : rest ≠ []) (inside : Partial rest) :
      Replaced (encode text ++ rest) (text ++ ['\uFFFD'])

/-- The character with one more byte read. -/
def Opened.goOn (opened : Opened) (byte : UInt8) : Opened where
  bits := 64 * opened.bits + byte.toNat % 64
  read := opened.read + 1
  owed := opened.owed - 1

theorem Opened.goOn_bounds (opened : Opened) (byte : UInt8) :
    (opened.goOn byte).low ≤ (opened.goOn byte).high :=
  (by decide : (0x80 : UInt8) ≤ 0xBF)

/-- Bytes that go on with an open character and leave it open. -/
inductive Continues : Opened → Bytes → Opened → Prop
  | refl (opened : Opened) : Continues opened [] opened
  | more {opened final : Opened} {byte : UInt8} {rest : Bytes} (above : opened.low ≤ byte)
      (below : byte ≤ opened.high) (several : ¬ opened.owed ≤ 1)
      (later : Continues (opened.goOn byte) rest final) : Continues opened (byte :: rest) final

namespace Continues

variable {opened final : Opened} {middle : Bytes} (goesOn : Continues opened middle final)

include goesOn

theorem pieces_append (rest : Bytes) :
    pieces (some opened) (middle ++ rest) = pieces (some final) rest := by
  induction goesOn with
  | refl => rfl
  | more above below several _ ih =>
      simpa [pieces, step, Opened.goOn, above, below, several] using ih

theorem read_eq : final.read = opened.read + middle.length := by
  induction goesOn with
  | refl => rfl
  | more _ _ _ _ ih =>
      rw [ih, List.length_cons, Opened.goOn, Nat.add_assoc, Nat.add_comm 1]

theorem completes {tail : Bytes} {value : Nat} (ends : Completes final tail value) :
    Completes opened (middle ++ tail) value := by
  induction goesOn with
  | refl => exact ends
  | more above below several _ ih => exact .more above below several (ih ends)

theorem append {rest : Bytes} {last : Opened} (more : Continues final rest last) :
    Continues opened (middle ++ rest) last := by
  induction goesOn with
  | refl => exact more
  | more above below several _ ih => exact .more above below several (ih more)

/-- Some byte may always come next. -/
theorem bounds (bounded : opened.low ≤ opened.high) : final.low ≤ final.high := by
  induction goesOn with
  | refl => exact bounded
  | more _ _ _ _ ih => exact ih (Opened.goOn_bounds _ _)

theorem unique {other : Opened} (same : Continues opened middle other) : final = other := by
  induction goesOn with
  | refl =>
      cases same
      rfl
  | more _ _ _ _ ih =>
      cases same with
      | more _ _ _ later => exact ih later

end Continues

theorem Completes.exists_continues {opened : Opened} {whole : Bytes} {value : Nat}
    (completes : Completes opened whole value) {middle tail : Bytes}
    (split : whole = middle ++ tail) (nonempty : tail ≠ []) :
    ∃ final, Continues opened middle final ∧ Completes final tail value := by
  induction completes generalizing middle with
  | @last opened byte above below single =>
      cases middle with
      | nil =>
          rw [List.nil_append] at split
          rw [← split]
          exact ⟨opened, .refl opened, .last above below single⟩
      | cons c middle =>
          have nothing := (List.cons.inj split).2.symm
          exact absurd (List.append_eq_nil_iff.mp nothing).2 nonempty
  | @more opened byte rest value above below several later ih =>
      cases middle with
      | nil =>
          rw [List.nil_append] at split
          rw [← split]
          exact ⟨opened, .refl opened, .more above below several later⟩
      | cons c middle =>
          obtain ⟨same, behind⟩ := List.cons.inj split
          obtain ⟨final, goesOn, ends⟩ := ih behind
          exact ⟨final, same ▸ .more above below several goesOn, ends⟩

theorem exists_completes_of_bounds {opened : Opened} (bounded : opened.low ≤ opened.high) :
    ∃ tail value, tail ≠ [] ∧ Completes opened tail value := by
  have above := UInt8.le_refl opened.low
  by_cases single : opened.owed ≤ 1
  · exact ⟨[opened.low], _, List.cons_ne_nil _ _, .last above bounded single⟩
  · obtain ⟨tail, value, _, completes⟩ :=
      exists_completes_of_bounds (opened.goOn_bounds opened.low)
    exact ⟨opened.low :: tail, value, List.cons_ne_nil _ _, .more above bounded single completes⟩
termination_by opened.owed
decreasing_by exact Nat.sub_one_lt_of_lt (Nat.lt_of_not_le single)

theorem bounds_of_opened? {byte : UInt8} {opened : Opened} (opens : opened? byte = some opened) :
    opened.low ≤ opened.high ∧ opened.read = 1 := by
  rw [opened?] at opens
  split_ifs at opens
  all_goals
    rw [← Option.some.inj opens]
    simp

/-- A byte ends an open character, goes on with it, or does neither. -/
theorem continues_cases (opened : Opened) (bytes : Bytes) :
    (∃ final, Continues opened bytes final) ∨
      (∃ middle byte later final, bytes = middle ++ byte :: later ∧
        Continues opened middle final ∧ ¬ (final.low ≤ byte ∧ byte ≤ final.high)) ∨
      ∃ tail rest value, bytes = tail ++ rest ∧ Completes opened tail value := by
  induction bytes generalizing opened with
  | nil => exact Or.inl ⟨opened, .refl opened⟩
  | cons byte bytes ih =>
      by_cases within : opened.low ≤ byte ∧ byte ≤ opened.high
      · obtain ⟨above, below⟩ := within
        by_cases single : opened.owed ≤ 1
        · exact Or.inr (Or.inr ⟨[byte], bytes, _, rfl, .last above below single⟩)
        · rcases ih (opened.goOn byte) with
            ⟨final, goesOn⟩ | ⟨middle, next, later, final, rfl, goesOn, outside⟩ |
              ⟨tail, rest, value, rfl, completes⟩
          · exact Or.inl ⟨final, .more above below single goesOn⟩
          · exact Or.inr (Or.inl ⟨byte :: middle, next, later, final, rfl,
              .more above below single goesOn, outside⟩)
          · exact Or.inr (Or.inr ⟨byte :: tail, rest, value, rfl,
              .more above below single completes⟩)
      · exact Or.inr (Or.inl ⟨[], byte, bytes, opened, rfl, .refl opened, within⟩)

theorem partial_of_continues {first : UInt8} {opened final : Opened} {middle : Bytes}
    (opens : opened? first = some opened) (goesOn : Continues opened middle final) :
    Partial (first :: middle) := by
  obtain ⟨tail, value, nonempty, ends⟩ :=
    exists_completes_of_bounds (goesOn.bounds (bounds_of_opened? opens).1)
  exact ⟨Char.ofNat value, tail, nonempty, encode_of_completes opens (goesOn.completes ends)⟩

/-- Inside a character its bytes so far have opened it. -/
theorem exists_opened_of_encodeChar {c : Char} {first : UInt8} {middle tail : Bytes}
    (encoded : String.utf8EncodeChar c = first :: (middle ++ tail)) (nonempty : tail ≠ []) :
    ∃ opened final value, opened? first = some opened ∧ Continues opened middle final ∧
      Completes final tail value := by
  have long : 0x80 ≤ c.toNat := by
    by_contra short
    rw [encodeChar_of_short (Nat.lt_of_not_le short)] at encoded
    have nothing := (List.cons.inj encoded).2.symm
    exact nonempty (List.append_eq_nil_iff.mp nothing).2
  obtain ⟨lead, opened, whole, spelled, opens, completes⟩ := exists_completes_of_long long
  rw [spelled, List.cons.injEq] at encoded
  obtain ⟨final, goesOn, ends⟩ := completes.exists_continues encoded.2 nonempty
  exact ⟨opened, final, _, encoded.1 ▸ opens, goesOn, ends⟩

section Run

variable {start later : Bytes} {byte : UInt8}

/-- The next byte breaks a character off exactly when it is out of the bounds for it. -/
theorem stopped_iff {first : UInt8} {opened final : Opened} {middle : Bytes}
    (opens : opened? first = some opened) (goesOn : Continues opened middle final) (byte : UInt8) :
    (∀ c, ¬ first :: middle ++ [byte] <+: String.utf8EncodeChar c) ↔
      ¬ (final.low ≤ byte ∧ byte ≤ final.high) := by
  constructor
  · intro stopped within
    obtain ⟨above, below⟩ := within
    by_cases single : final.owed ≤ 1
    · have whole := encode_of_completes opens (goesOn.completes (.last above below single))
      exact stopped _ ⟨[], by rw [List.append_nil, whole, List.cons_append]⟩
    · have longer := goesOn.append (.more above below single (.refl _))
      obtain ⟨c, tail, _, encoded⟩ := partial_of_continues opens longer
      exact stopped c ⟨tail, encoded.symm⟩
  · intro outside c inside
    obtain ⟨tail, encoded⟩ := inside
    rw [List.append_assoc, List.singleton_append, List.cons_append] at encoded
    obtain ⟨other, reached, value, opensOther, goesOnOther, ends⟩ :=
      exists_opened_of_encodeChar encoded.symm (List.cons_ne_nil byte tail)
    rw [opens, Option.some.injEq] at opensOther
    rw [goesOn.unique (opensOther ▸ goesOnOther)] at outside
    cases ends with
    | last above below _ => exact outside ⟨above, below⟩
    | more above below _ _ => exact outside ⟨above, below⟩

/-- A byte starts no character exactly when it opens none and is none. -/
theorem not_prefix_singleton_iff :
    (∀ c, ¬ [byte] <+: String.utf8EncodeChar c) ↔ 0x80 ≤ byte.toNat ∧ opened? byte = none := by
  constructor
  · intro foreign
    constructor
    · by_contra short
      have whole := encodeChar_ofNat_of_short (Nat.lt_of_not_le short)
      exact foreign _ ⟨[], whole.symm⟩
    · cases opens : opened? byte with
      | none => rfl
      | some opened =>
          obtain ⟨c, tail, _, encoded⟩ := partial_of_continues opens (.refl opened)
          exact absurd ⟨tail, encoded.symm⟩ (foreign c)
  · rintro ⟨long, opensNone⟩ c ⟨tail, encoded⟩
    by_cases short : c.toNat < 0x80
    · rw [encodeChar_of_short short] at encoded
      rw [(List.cons.inj encoded).1, toNat_ofNat_of_short short] at long
      exact absurd long (Nat.not_le_of_lt short)
    · obtain ⟨first, opened, _, spelled, opens, _⟩ :=
        exists_completes_of_long (Nat.le_of_not_lt short)
      rw [spelled] at encoded
      rw [(List.cons.inj encoded).1, opens] at opensNone
      cases opensNone

theorem pieces_of_partial (nonempty : start ≠ []) (inside : Partial start) :
    pieces none start = [.cut] := by
  obtain ⟨c, tail, more, encoded⟩ := inside
  obtain ⟨first, middle, rfl⟩ := List.exists_cons_of_ne_nil nonempty
  obtain ⟨opened, final, _, opens, goesOn, _⟩ := exists_opened_of_encodeChar encoded more
  have read := goesOn.pieces_append []
  rw [List.append_nil] at read
  rw [pieces_of_opened? opens, read]
  rfl

theorem BrokenOff.length_pos {bytes : Bytes} {length : Nat} (broken : BrokenOff bytes length) :
    0 < length ∧ 0 < bytes.length := by
  cases broken with
  | intro started stopped =>
      refine ⟨by omega, ?_⟩
      rw [List.length_append, List.length_cons]
      omega

/-- Reading resumes behind the run. -/
theorem pieces_of_brokenOff {bytes : Bytes} {length : Nat} (broken : BrokenOff bytes length) :
    pieces none bytes = .invalid length :: pieces none (bytes.drop length) := by
  cases broken with
  | @intro start later byte started stopped =>
      cases start with
      | nil =>
          obtain ⟨long, opensNone⟩ := not_prefix_singleton_iff.mp stopped
          rw [List.nil_append, pieces, step, first_of_long long, opensNone]
          rfl
      | cons first middle =>
          obtain ⟨c, tail, more, encoded⟩ := started
          obtain ⟨opened, final, _, opens, goesOn, _⟩ := exists_opened_of_encodeChar encoded more
          have outside := (stopped_iff opens goesOn byte).mp stopped
          have length : max 1 (first :: middle).length = final.read := by
            rw [goesOn.read_eq, (bounds_of_opened? opens).2, List.length_cons]
            omega
          have dropped : (first :: middle ++ byte :: later).drop final.read = byte :: later := by
            rw [← length]
            simp
          rw [length, dropped, List.cons_append, pieces_of_opened? opens, goesOn.pieces_append,
            pieces, step, if_neg outside, pieces, step]
          rfl

end Run

/-- Bytes start with a character, with a broken one, or are the start of one. -/
theorem front_cases {bytes : Bytes} (nonempty : bytes ≠ []) :
    (∃ c rest, bytes = String.utf8EncodeChar c ++ rest) ∨ (∃ length, BrokenOff bytes length) ∨
      Partial bytes := by
  obtain ⟨byte, rest, rfl⟩ := List.exists_cons_of_ne_nil nonempty
  by_cases short : byte.toNat < 0x80
  · refine Or.inl ⟨Char.ofNat byte.toNat, rest, ?_⟩
    rw [encodeChar_ofNat_of_short short, List.singleton_append]
  · cases opens : opened? byte with
    | none =>
        have stopped := not_prefix_singleton_iff.mpr ⟨Nat.le_of_not_lt short, opens⟩
        have nothing : Partial [] := ⟨'a', String.utf8EncodeChar 'a', by decide, rfl⟩
        exact Or.inr (Or.inl ⟨_, @BrokenOff.intro [] rest byte nothing stopped⟩)
    | some opened =>
        rcases continues_cases opened rest with ⟨final, goesOn⟩ |
          ⟨middle, next, later, final, rfl, goesOn, outside⟩ | ⟨tail, rest, value, rfl, completes⟩
        · exact Or.inr (Or.inr (partial_of_continues opens goesOn))
        · have stopped := (stopped_iff opens goesOn next).mpr outside
          exact Or.inr (Or.inl ⟨_, .intro (partial_of_continues opens goesOn) stopped⟩)
        · refine Or.inl ⟨Char.ofNat value, rest, ?_⟩
          rw [encode_of_completes opens completes, List.cons_append]

/-- Behind the longest text nothing is left, or a run that is broken off or cut off. -/
theorem exists_split (bytes : Bytes) :
    ∃ text rest, bytes = encode text ++ rest ∧
      (rest = [] ∨ (∃ length, BrokenOff rest length) ∨ rest ≠ [] ∧ Partial rest) := by
  -- By the length of the bytes: what follows their first character is split alike.
  by_cases nothing : bytes = []
  · exact ⟨[], [], nothing, Or.inl rfl⟩
  · rcases front_cases nothing with ⟨c, behind, split⟩ | broken | inside
    · have shorter : behind.length < bytes.length := by
        rw [split, List.length_append, String.length_utf8EncodeChar]
        exact Nat.lt_add_of_pos_left c.utf8Size_pos
      obtain ⟨text, rest, rfl, stuck⟩ := exists_split behind
      exact ⟨c :: text, rest, by rw [split, encode_cons, List.append_assoc], stuck⟩
    · exact ⟨[], bytes, rfl, Or.inr (Or.inl broken)⟩
    · exact ⟨[], bytes, rfl, Or.inr (Or.inr ⟨nothing, inside⟩)⟩
termination_by bytes.length

section Stuck

variable {rest : Bytes} {faulty : Piece} {more : List Piece}
  (stuck : pieces none rest = faulty :: more) (foreign : ∀ c, faulty ≠ .char c)

include stuck foreign

theorem prefix_of_encode_prefix {text other : Text}
    (inside : encode other <+: encode text ++ rest) : other <+: text := by
  induction other generalizing text with
  | nil => exact List.nil_prefix
  | cons c other ih =>
      obtain ⟨behind, split⟩ := inside
      rw [encode_cons, List.append_assoc] at split
      have read := congrArg (pieces none) split
      rw [pieces_encodeChar_append] at read
      cases text with
      | nil =>
          have rest := read.trans stuck
          exact absurd (List.cons.inj rest).1.symm (foreign c)
      | cons d text =>
          rw [encode_cons, List.append_assoc] at split read
          rw [pieces_encodeChar_append] at read
          have same := Piece.char.inj (List.cons.inj read).1
          rw [same] at split ⊢
          have later := ih ⟨behind, List.append_cancel_left split⟩
          exact List.cons_prefix_cons.mpr ⟨rfl, later⟩

theorem longestText_of_stuck (text : Text) : LongestText (encode text ++ rest) text rest where
  split := rfl
  longest := by
    intro other inside
    obtain ⟨behind, whole⟩ := prefix_of_encode_prefix stuck foreign inside
    rw [← whole, encode, encode, List.flatMap_append, List.length_append]
    exact Nat.le_add_right _ _

end Stuck

theorem textFrom_append (index : Nat) (text : Text) (pieces : List Piece) :
    textFrom index (text.map .char ++ pieces) =
      (textFrom (index + (encode text).length) pieces).map (text ++ ·) := by
  induction text generalizing index with
  | nil =>
      change textFrom index pieces = (textFrom index pieces).map id
      cases textFrom index pieces <;> rfl
  | cons c text ih =>
      rw [List.map_cons, List.cons_append, textFrom, ih, encode_cons, List.length_append,
        String.length_utf8EncodeChar, Nat.add_assoc]
      cases textFrom (index + (c.utf8Size + (encode text).length)) pieces <;> rfl

theorem decode_append (text : Text) (rest : Bytes) :
    decode (encode text ++ rest) =
      (textFrom (encode text).length (pieces none rest)).map (text ++ ·) := by
  rw [decode, pieces_encode_append, textFrom_append, Nat.zero_add]

theorem decode_of_at {bytes : Bytes} {fault : Fault} (holds : fault.At bytes) :
    decode bytes = .error fault := by
  cases holds with
  | invalid longest broken =>
      rw [longest.split, decode_append, pieces_of_brokenOff broken]
      rfl
  | incomplete longest nonempty inside =>
      rw [longest.split, decode_append, pieces_of_partial nonempty inside]
      rfl

theorem decode_encode (text : Text) : decode (encode text) = .ok text := by
  have read := decode_append text []
  rw [List.append_nil] at read
  rw [read]
  exact congrArg Except.ok (List.append_nil text)

/-- Bytes that encode no text have one fault. -/
theorem encodes_or_at (bytes : Bytes) :
    (∃ text, encode text = bytes) ∨ ∃ fault : Fault, fault.At bytes := by
  obtain ⟨text, rest, split, nothing | ⟨length, broken⟩ | ⟨nonempty, inside⟩⟩ := exists_split bytes
  · rw [nothing, List.append_nil] at split
    exact Or.inl ⟨text, split.symm⟩
  · have longest := longestText_of_stuck (pieces_of_brokenOff broken) (by simp) text
    exact Or.inr ⟨_, .invalid (split ▸ longest) broken⟩
  · have longest := longestText_of_stuck (pieces_of_partial nonempty inside) (by simp) text
    exact Or.inr ⟨_, .incomplete (split ▸ longest) nonempty inside⟩

/-- Bytes are decoded to a text exactly when they encode it. -/
theorem decode_eq_ok_iff {bytes : Bytes} {text : Text} :
    decode bytes = .ok text ↔ encode text = bytes := by
  constructor
  · intro read
    rcases encodes_or_at bytes with ⟨other, encoded⟩ | ⟨fault, holds⟩
    · rw [← encoded, decode_encode] at read
      rw [← Except.ok.inj read, encoded]
    · rw [decode_of_at holds] at read
      cases read
  · intro encoded
    rw [← encoded, decode_encode]

theorem decode_eq_error_iff {bytes : Bytes} {fault : Fault} :
    decode bytes = .error fault ↔ fault.At bytes := by
  constructor
  · intro failed
    rcases encodes_or_at bytes with ⟨text, encoded⟩ | ⟨other, holds⟩
    · rw [← encoded, decode_encode] at failed
      cases failed
    · rw [decode_of_at holds] at failed
      exact Except.error.inj failed ▸ holds
  · exact decode_of_at

example : (Fault.invalid 2 1).At [0x41, 0xE2, 0x82, 0x41] := decode_eq_error_iff.mp rfl

theorem decodeLossy_append (text : Text) (rest : Bytes) :
    decodeLossy (encode text ++ rest) = text ++ decodeLossy rest := by
  rw [decodeLossy, pieces_encode_append, List.map_append, List.map_map, ← decodeLossy]
  exact congrArg (· ++ _) (List.map_id text)

theorem exists_replaced (bytes : Bytes) : ∃ text, Replaced bytes text := by
  obtain ⟨text, rest, split, nothing | ⟨length, broken⟩ | ⟨nonempty, inside⟩⟩ := exists_split bytes
  · rw [nothing, List.append_nil] at split
    exact ⟨text, split ▸ .whole text⟩
  · have shorter : (rest.drop length).length < bytes.length := by
      have ⟨filled, filledRest⟩ := broken.length_pos
      rw [split, List.length_append, List.length_drop]
      omega
    obtain ⟨others, later⟩ := exists_replaced (rest.drop length)
    rw [split]
    exact ⟨_, .invalid broken later⟩
  · rw [split]
    exact ⟨_, .incomplete nonempty inside⟩
termination_by bytes.length
decreasing_by exact shorter

theorem decodeLossy_eq_iff {bytes : Bytes} {text : Text} :
    decodeLossy bytes = text ↔ Replaced bytes text := by
  have read : ∀ {bytes text}, Replaced bytes text → decodeLossy bytes = text := by
    intro bytes text replaced
    induction replaced with
    | whole text =>
        have whole := decodeLossy_append text []
        have nothing : decodeLossy [] = [] := rfl
        rwa [List.append_nil, nothing, List.append_nil] at whole
    | invalid broken later ih =>
        rw [decodeLossy_append, decodeLossy, pieces_of_brokenOff broken, List.map_cons,
          ← decodeLossy, ih]
    | incomplete nonempty inside =>
        rw [decodeLossy_append, decodeLossy, pieces_of_partial nonempty inside]
        rfl
  constructor
  · intro decoded
    obtain ⟨other, replaced⟩ := exists_replaced bytes
    rw [read replaced] at decoded
    exact decoded ▸ replaced
  · exact read

end LiveRange.Utf8
