import LiveRange.Text.Blank

/-! UTF-8: bytes cut into characters and faults, then decoded strictly or with replacements. -/

namespace LiveRange

abbrev Bytes := List UInt8

namespace Utf8

def encode (text : Text) : Bytes := text.flatMap String.utf8EncodeChar

/-- A character whose first bytes are read: their bits, the bytes read and owed, and the bounds of
the next byte. Only the second byte has bounds of its own. They keep out longer spellings than
needed, surrogates, and values beyond the last character. -/
structure Opened where
  bits : Nat
  read : Nat
  owed : Nat
  low : UInt8 := 0x80
  high : UInt8 := 0xBF
  deriving DecidableEq, Repr

inductive Piece where
  | char (c : Char)
  | invalid (length : Nat)
  | cut
  deriving DecidableEq, Repr

/-- The character that a first byte of two to four opens. -/
def opened? (byte : UInt8) : Option Opened :=
  if 0xC2 ≤ byte ∧ byte ≤ 0xDF then some { bits := byte.toNat - 0xC0, read := 1, owed := 1 }
  else if byte = 0xE0 then some { bits := 0, read := 1, owed := 2, low := 0xA0 }
  else if byte = 0xED then some { bits := 0xD, read := 1, owed := 2, high := 0x9F }
  else if 0xE1 ≤ byte ∧ byte ≤ 0xEF then some { bits := byte.toNat - 0xE0, read := 1, owed := 2 }
  else if byte = 0xF0 then some { bits := 0, read := 1, owed := 3, low := 0x90 }
  else if 0xF1 ≤ byte ∧ byte ≤ 0xF3 then some { bits := byte.toNat - 0xF0, read := 1, owed := 3 }
  else if byte = 0xF4 then some { bits := 4, read := 1, owed := 3, high := 0x8F }
  else none

/-- What a byte between characters settles, and the character it leaves open. -/
def first (byte : UInt8) : List Piece × Option Opened :=
  if byte < 0x80 then ([.char (Char.ofNat byte.toNat)], none)
  else
    match opened? byte with
    | some opened => ([], some opened)
    | none => ([.invalid 1], none)

/-- A byte that cannot continue an open character ends it as invalid and is read anew. -/
def step (opened : Option Opened) (byte : UInt8) : List Piece × Option Opened :=
  match opened with
  | none => first byte
  | some opened =>
    if opened.low ≤ byte ∧ byte ≤ opened.high then
      let bits := 64 * opened.bits + byte.toNat % 64
      if opened.owed ≤ 1 then ([.char (Char.ofNat bits)], none)
      else ([], some { bits, read := opened.read + 1, owed := opened.owed - 1 })
    else (.invalid opened.read :: (first byte).1, (first byte).2)

def pieces (opened : Option Opened) : Bytes → List Piece
  | [] => if opened.isSome then [.cut] else []
  | byte :: rest => (step opened byte).1 ++ pieces (step opened byte).2 rest

/-- Why bytes are no text: from `index` on, `length` bytes fit no character, or the input ends
inside one. -/
inductive Fault where
  | invalid (length index : Nat)
  | incomplete (index : Nat)
  deriving DecidableEq, Repr

def Fault.message : Fault → Text
  | .invalid length index =>
    "invalid utf-8 sequence of ".toList ++ Nat.toDigits 10 length ++ " bytes from index ".toList ++
      Nat.toDigits 10 index
  | .incomplete index => "incomplete utf-8 byte sequence from index ".toList ++ Nat.toDigits 10 index

def textFrom (index : Nat) : List Piece → Except Fault Text
  | [] => .ok []
  | .char c :: rest => (textFrom (index + c.utf8Size) rest).map (c :: ·)
  | .invalid length :: _ => .error (.invalid length index)
  | .cut :: _ => .error (.incomplete index)

def decode (bytes : Bytes) : Except Fault Text := textFrom 0 (pieces none bytes)

/-- Each faulty piece becomes one replacement character. -/
def decodeLossy (bytes : Bytes) : Text :=
  (pieces none bytes).map fun
    | .char c => c
    | .invalid _ | .cut => '\uFFFD'

end Utf8

end LiveRange
