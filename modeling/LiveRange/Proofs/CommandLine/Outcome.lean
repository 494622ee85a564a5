import LiveRange.CommandLine.Run
import LiveRange.Proofs.CommandLine.Request
import LiveRange.Proofs.Numeral
import LiveRange.Proofs.Query
import LiveRange.Proofs.Text.Lines
import LiveRange.Proofs.Utf8.Decode

/-! How the command exits and what it prints tell what its query came to. -/

namespace LiveRange

namespace AddressRange

end AddressRange

namespace Finding

end Finding

namespace CommandLine

/-- The command asks a query, which comes to this. -/
def Resolves (host : Host) (arguments : List Text) (result : Except Failure Finding) : Prop :=
  ∃ options query, Options.ofArguments arguments = .ok options ∧ options.Asks host query ∧
    (query.alone (options.dumpSource host).supply).1 = result

variable {host : Host} {arguments : List Text} (program : Text)

theorem Resolves.unique {result other : Except Failure Finding}
    (resolves : Resolves host arguments result) (again : Resolves host arguments other) :
    result = other := by
  obtain ⟨options, query, read, asks, rfl⟩ := resolves
  obtain ⟨others, another, readAgain, asksAgain, rfl⟩ := again
  cases read.symm.trans readAgain
  cases (Options.query_eq_ok_iff.mpr asks).symm.trans (Options.query_eq_ok_iff.mpr asksAgain)
  rfl

section Arguments

variable {given : List Bytes}

end Arguments

end CommandLine

end LiveRange
