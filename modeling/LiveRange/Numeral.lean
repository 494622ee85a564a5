import LiveRange.Text.Blank

/-! Unsigned 64-bit numbers as dumps spell them, and as reports print them. -/

namespace LiveRange.Numeral

/-- How a number without a mark of its base is read. -/
inductive Radix where
  | decimal
  | hexadecimal
  deriving DecidableEq, Repr

/-- The base a number is spelled in, and its digits. A decimal default honours the marks of bases
sixteen, eight and two. A hexadecimal default honours only the first, since `0b10` is then a
number without a mark. -/
def Radix.split : Radix → Text → Nat × Text
  | _, '0' :: 'x' :: digits | _, '0' :: 'X' :: digits => (16, digits)
  | .decimal, '0' :: 'o' :: digits | .decimal, '0' :: 'O' :: digits => (8, digits)
  | .decimal, '0' :: 'b' :: digits | .decimal, '0' :: 'B' :: digits => (2, digits)
  | .decimal, digits => (10, digits)
  | .hexadecimal, digits => (16, digits)

/-- The value of an ASCII hexadecimal digit. -/
def hexDigit? (c : Char) : Option Nat :=
  if '0' ≤ c ∧ c ≤ '9' then some (c.toNat - '0'.toNat)
  else if 'a' ≤ c ∧ c ≤ 'f' then some (c.toNat - 'a'.toNat + 10)
  else if 'A' ≤ c ∧ c ≤ 'F' then some (c.toNat - 'A'.toNat + 10)
  else none

def isHexDigit (c : Char) : Bool := (hexDigit? c).isSome

/-- The value of a digit in a base of at most sixteen. -/
def digit? (base : Nat) (c : Char) : Option Nat := (hexDigit? c).filter (· < base)

/-- The value of one or more digits. -/
def value? (base : Nat) (digits : Text) : Option Nat :=
  if digits = [] then none
  else digits.foldlM (fun value c => (digit? base c).map (base * value + ·)) 0

/-- A number that fits into 64 bits. A larger one is refused, never wrapped. -/
def word? (value : Nat) : Option UInt64 :=
  if fits : value < UInt64.size then some (UInt64.ofNatLT value fits) else none

theorem word?_eq_some_iff {value : Nat} {word : UInt64} :
    word? value = some word ↔ value = word.toNat := by
  simp only [word?]
  split
  · simp [← UInt64.toNat_inj]
  · rename_i large
    have bound := word.toNat_lt
    simp only [UInt64.size] at large
    simp
    omega

def parse? (radix : Radix) (token : Text) : Option UInt64 :=
  let (base, digits) := radix.split token.trim
  (value? base digits).bind word?

/-- Decimal digits alone, behind at most one plus sign. -/
def signed? : Text → Option UInt64
  | '+' :: digits => (value? 10 digits).bind word?
  | digits => (value? 10 digits).bind word?

def decimal (value : UInt64) : Text := Nat.toDigits 10 value.toNat

/-- Lower-case digits without padding. -/
def hexadecimal (value : UInt64) : Text := Nat.toDigits 16 value.toNat

def markedHexadecimal (value : UInt64) : Text := '0' :: 'x' :: hexadecimal value

end LiveRange.Numeral
