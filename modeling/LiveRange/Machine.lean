import LiveRange.Text.Search

/-! Machine architectures by the names debuggers give them. -/

namespace LiveRange

inductive Machine where
  | arm
  | aarch64
  | aarch64Narrow
  | i386
  | x8664
  | x8664Narrow
  | riscv32
  | riscv64
  | mips
  | mips64
  | powerPc
  | powerPc64
  | other
  deriving DecidableEq, Repr

namespace Machine

def name : Machine → String
  | arm => "arm"
  | aarch64 | aarch64Narrow => "aarch64"
  | i386 => "i386"
  | x8664 | x8664Narrow => "i386:x86-64"
  | riscv32 => "riscv:rv32"
  | riscv64 => "riscv:rv64"
  | mips | mips64 => "mips"
  | powerPc | powerPc64 => "powerpc:common"
  | other => "unknown"

/-- The one family whose dumps are understood. -/
def family : Text := "arm".toList

/-- The family's plain name, or the name of a variant. -/
def inFamily (name : Text) : Bool := name == family || name.startsWith "armv"

end Machine

end LiveRange
