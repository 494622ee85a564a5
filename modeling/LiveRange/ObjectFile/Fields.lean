import LiveRange.Utf8

/-! Numbers at fixed places of a file's content. -/

namespace LiveRange

inductive ByteOrder where
  | little
  | big
  deriving DecidableEq, Repr

def ByteOrder.value : ByteOrder → Bytes → Nat
  | little, bytes => bytes.foldr (fun byte value => byte.toNat + 256 * value) 0
  | big, bytes => bytes.foldl (fun value byte => 256 * value + byte.toNat) 0

/-- Addresses of 32 or 64 bits. -/
inductive Width where
  | narrow
  | wide
  deriving DecidableEq, Repr

/-- The size of an address. -/
def Width.size : Width → Nat
  | narrow => 4
  | wide => 8

namespace Bytes

/-- Whether as many bytes as a size tells stand from an offset on. -/
def holds (content : Bytes) (offset size : Nat) : Bool := offset + size ≤ content.length

def field (content : Bytes) (order : ByteOrder) (offset size : Nat) : Nat :=
  order.value ((content.drop offset).take size)

end Bytes

end LiveRange
