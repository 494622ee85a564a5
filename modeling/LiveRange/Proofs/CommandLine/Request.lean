import LiveRange.CommandLine.Request
import Mathlib.Logic.Basic
import Mathlib.Tactic.SplitIfs

/-! The query that options ask, told from the options and what their host shows. -/

namespace LiveRange

namespace Host

/-- The object can be read, and is understood to be for the machine of this name. -/
def Detects (host : Host) (object : Path) (name : Text) : Prop :=
  ∃ content machine, host.read object = .ok content ∧ host.inspect content = .ok machine ∧
    machine.name.toList = name

variable {host : Host} {object : Path}

theorem machineOf_eq_ok_iff {name : Text} :
    host.machineOf object = .ok name ↔ host.Detects object name := by
  rw [machineOf, Detects]
  cases host.read object with
  | error error => simp
  | ok content => cases inspected : host.inspect content <;> simp [inspected]

end Host

namespace CommandLine

/-- The query that the options ask. Without recorded dumps its object has to be there, and without
a machine that is told the host has to know that of the object. -/
structure Options.Asks (options : Options) (host : Host) (query : Query) : Prop where
  object : options.object = some query.object
  line : options.line = some query.line
  source : options.source = some query.source
  name : query.name = options.name.getD (query.source ++ ':' :: Numeral.decimal query.line)
  there : options.recorded = none → host.present query.object = true
  machine : options.machine = some query.machine ∨
    options.machine = none ∧ host.Detects query.object query.machine

theorem Options.machineOn_eq_ok_iff {options : Options} {host : Host} {object : Path}
    {name : Text} :
    options.machineOn host object = .ok name ↔
      options.machine = some name ∨ options.machine = none ∧ host.Detects object name := by
  rw [machineOn, ← Host.machineOf_eq_ok_iff]
  cases options.machine with
  | some machine => simp
  | none => cases host.machineOf object <;> simp [Except.mapError]

theorem Options.query_of_told {options : Options} {host : Host} {object source : Path}
    {line : UInt64} (objectTold : options.object = some object)
    (lineTold : options.line = some line) (sourceTold : options.source = some source) :
    options.query host =
      if options.recorded.isNone && !host.present object then .error (.objectMissing object)
      else (options.machineOn host object).map fun machine =>
        { name := options.name.getD (source ++ ':' :: Numeral.decimal line), line, source, object,
          machine } := by
  rw [query, objectTold, lineTold, sourceTold]
  simp only [bind, Except.bind, pure, Except.pure]
  generalize (options.recorded.isNone && !host.present object) = missing
  cases missing with
  | true => rfl
  | false => cases options.machineOn host object <;> rfl

theorem Options.query_eq_error_of_missing {options : Options} {host : Host}
    (missing : options.object = none ∨ options.line = none ∨ options.source = none) :
    ∃ error, options.query host = .error error := by
  rw [query]
  cases object : options.object with
  | none => exact ⟨_, rfl⟩
  | some path =>
      cases line : options.line with
      | none => exact ⟨_, rfl⟩
      | some number =>
          cases source : options.source with
          | none => exact ⟨_, rfl⟩
          | some file => simp [object, line, source] at missing

theorem Options.told_or_missing (options : Options) :
    (options.object = none ∨ options.line = none ∨ options.source = none) ∨
      ∃ object line source, options.object = some object ∧ options.line = some line ∧
        options.source = some source := by
  cases options.object <;> cases options.line <;> cases options.source <;> simp

theorem Options.query_eq_ok_iff {options : Options} {host : Host} {query : Query} :
    options.query host = .ok query ↔ options.Asks host query := by
  constructor
  · intro asked
    rcases options.told_or_missing with missing | ⟨object, line, source, told, toldLine, toldSource⟩
    · obtain ⟨error, failed⟩ : ∃ error, options.query host = .error error :=
        query_eq_error_of_missing missing
      cases failed.symm.trans asked
    · rw [query_of_told told toldLine toldSource] at asked
      split_ifs at asked with missing
      cases machine : options.machineOn host object with
      | error undetected => simp [machine, Except.map] at asked
      | ok name =>
          rw [machine] at asked
          cases asked
          rw [Bool.and_eq_true, Option.isNone_iff_eq_none, Bool.not_eq_true', not_and,
            Bool.not_eq_false] at missing
          exact ⟨told, toldLine, toldSource, rfl, missing, machineOn_eq_ok_iff.mp machine⟩
  · rintro ⟨told, toldLine, toldSource, name, there, machine⟩
    have present : ¬ (options.recorded.isNone && !host.present query.object) = true := by
      rw [Bool.and_eq_true, Option.isNone_iff_eq_none, Bool.not_eq_true', not_and,
        Bool.not_eq_false]
      exact there
    rw [query_of_told told toldLine toldSource, if_neg present, machineOn_eq_ok_iff.mpr machine,
      ← name]
    rfl

end CommandLine

end LiveRange
