import LiveRange.Proofs.Dump.Replay

/-! What is made of a run of a dumping program: the dump that it printed, or the first of the
reasons why there is none. -/

namespace LiveRange

namespace Dump

/-- Why the outcome of a run is no dump, and how it is told. What a program printed counts only when
the program ended well, and whether it is blank only when it is a text. -/
inductive Refused (program : Path) : Except FileError Finish → Fault → Text → Prop
  | notStarted (error : FileError) :
      Refused program (.error error) (.notStarted program error)
        ("cannot run ".toList ++ program ++ ": ".toList ++ error.message)
  | ended {finish : Finish} {diagnostics : Text} (failed : finish.status ≠ .code 0)
      (read : Utf8.Replaced finish.diagnostics diagnostics) :
      Refused program (.ok finish) (.ended program finish.status finish.diagnostics)
        (program ++ " exited with ".toList ++ finish.status.text ++ ": ".toList ++ diagnostics.trim)
  | invalid {finish : Finish} {length index : Nat} (ended : finish.status = .code 0)
      (broken : (Utf8.Fault.invalid length index).At finish.output) :
      Refused program (.ok finish) (.outputNotText (.invalid length index))
        ("output is not UTF-8: ".toList ++ ("invalid utf-8 sequence of ".toList ++
          Nat.toDigits 10 length ++ " bytes from index ".toList ++ Nat.toDigits 10 index))
  | incomplete {finish : Finish} {index : Nat} (ended : finish.status = .code 0)
      (cut : (Utf8.Fault.incomplete index).At finish.output) :
      Refused program (.ok finish) (.outputNotText (.incomplete index))
        ("output is not UTF-8: ".toList ++
          ("incomplete utf-8 byte sequence from index ".toList ++ Nat.toDigits 10 index))
  | blank {finish : Finish} {text : Text} (ended : finish.status = .code 0)
      (encoded : Utf8.encode text = finish.output) (nothing : text.Blank) :
      Refused program (.ok finish) .blank "empty output".toList

theorem Refused.message_eq {program : Path} {outcome : Except FileError Finish} {fault : Fault}
    {reason : Text} (refused : Refused program outcome fault reason) : fault.message = reason := by
  cases refused with
  | notStarted error => rfl
  | ended failed read =>
      rw [← Utf8.decodeLossy_eq_iff.mpr read]
      rfl
  | invalid ended broken => rfl
  | incomplete ended cut => rfl
  | blank ended encoded nothing => rfl

/-- Bytes are refused for a fault of their encoding, or else as a blank text. -/
theorem ofBytes_eq_error_iff {unreadable : Utf8.Fault → Fault} {bytes : Bytes} {fault : Fault} :
    ofBytes unreadable bytes = .error fault ↔
      (∃ cause : Utf8.Fault, cause.At bytes ∧ fault = unreadable cause) ∨
        ∃ text, Utf8.encode text = bytes ∧ text.Blank ∧ fault = .blank := by
  cases decoded : Utf8.decode bytes with
  | error cause =>
      have only : ∀ other : Utf8.Fault, other.At bytes ↔ cause = other := by
        intro other
        rw [← Utf8.decode_eq_error_iff, decoded, Except.error.injEq]
      have foreign : ∀ text, Utf8.encode text ≠ bytes := by
        intro text encoded
        rw [Utf8.decode_eq_ok_iff.mpr encoded] at decoded
        cases decoded
      have read : ofBytes unreadable bytes = .error (unreadable cause) := by
        rw [ofBytes, decoded]
        rfl
      simp [read, only, foreign, eq_comm]
  | ok text =>
      have only : ∀ other, Utf8.encode other = bytes ↔ text = other := by
        intro other
        rw [← Utf8.decode_eq_ok_iff, decoded, Except.ok.injEq]
      have whole : ∀ cause : Utf8.Fault, ¬ cause.At bytes := by
        intro cause holds
        rw [Utf8.decode_eq_error_iff.mpr holds] at decoded
        cases decoded
      rw [ofBytes_of_encode ((only text).mpr rfl), notBlank]
      simp only [Text.trim_eq_nil_iff, whole, only]
      split_ifs with nothing <;> simp [nothing, eq_comm]

end Dump

namespace Host

variable (host : Host) (program : Path) (kind : Dump.Kind) (object : Path)

theorem rendered_eq :
    host.rendered program kind object =
      match host.start (Dump.invocation program kind object) with
      | .error error => .error (.notStarted program error)
      | .ok finish =>
        if finish.status = .code 0 then Dump.ofBytes .outputNotText finish.output
        else .error (.ended program finish.status finish.diagnostics) := by
  rw [rendered]
  cases host.start (Dump.invocation program kind object) with
  | error error => rfl
  | ok finish =>
      by_cases ended : finish.status = .code 0
      · simp only [Except.mapError, bind, Except.bind, ended, Dump.ofBytes]
        rfl
      · simp only [Except.mapError, bind, Except.bind, ne_eq, ended, not_false_eq_true, if_true,
          if_false]
        rfl

theorem rendered_eq_ok_iff {text : Text} :
    host.rendered program kind object = .ok text ↔ ∃ finish,
      host.start (Dump.invocation program kind object) = .ok finish ∧ finish.status = .code 0 ∧
        Dump.Legible finish.output text := by
  rw [rendered_eq]
  cases host.start (Dump.invocation program kind object) with
  | error error => simp
  | ok finish =>
      by_cases ended : finish.status = .code 0 <;> simp [ended, Dump.ofBytes_eq_ok_iff]

theorem rendered_eq_error_iff {fault : Dump.Fault} :
    host.rendered program kind object = .error fault ↔
      Dump.Refused program (host.start (Dump.invocation program kind object)) fault
        fault.message := by
  have told {outcome : Except FileError Finish} {reason : Text}
      (refused : Dump.Refused program outcome fault reason) :
      Dump.Refused program outcome fault fault.message :=
    refused.message_eq ▸ refused
  rw [rendered_eq]
  cases host.start (Dump.invocation program kind object) with
  | error error =>
      constructor
      · intro failed
        cases failed
        exact told (.notStarted error)
      · intro refused
        cases refused
        rfl
  | ok finish =>
      by_cases ended : finish.status = .code 0
      · simp only [if_pos ended, Dump.ofBytes_eq_error_iff]
        constructor
        · rintro (⟨cause, holds, rfl⟩ | ⟨text, encoded, nothing, rfl⟩)
          · cases cause with
            | invalid length index => exact told (.invalid ended holds)
            | incomplete index => exact told (.incomplete ended holds)
          · exact told (.blank ended encoded nothing)
        · intro refused
          generalize fault.message = reason at refused
          cases refused with
          | ended failed _ => exact absurd ended failed
          | invalid _ broken => exact Or.inl ⟨_, broken, rfl⟩
          | incomplete _ cut => exact Or.inl ⟨_, cut, rfl⟩
          | blank _ encoded nothing => exact Or.inr ⟨_, encoded, nothing, rfl⟩
      · simp only [if_neg ended, Except.error.injEq]
        constructor
        · rintro rfl
          exact told (.ended ended (Utf8.decodeLossy_eq_iff.mp rfl))
        · intro refused
          generalize fault.message = reason at refused
          cases refused with
          | ended _ _ => rfl
          | invalid here _ => exact absurd here ended
          | incomplete here _ => exact absurd here ended
          | blank here _ _ => exact absurd here ended

/-- A run gives the whole text it printed, or a failure of its kind with the first reason there is:
that it did not start, how it ended, why its output is no text, or that nothing is in it. -/
theorem supply_rendered_iff :
    (∀ text, (host.rendered program).supply kind object = .ok text ↔
      (∃ diagnostics, host.start (Dump.invocation program kind object) =
          .ok { status := .code 0, output := Utf8.encode text, diagnostics }) ∧
        ∃ c ∈ text, isBlank c = false) ∧
      ∀ failure, (host.rendered program).supply kind object = .error failure ↔
        ∃ fault, failure = .dumpFailed kind fault ∧
          Dump.Refused program (host.start (Dump.invocation program kind object)) fault
            fault.message := by
  constructor
  · intro text
    have filled : ¬ text.Blank ↔ ∃ c ∈ text, isBlank c = false := by
      simp [Text.Blank]
    rw [Dump.Source.supply_eq_ok_iff, rendered_eq_ok_iff, ← filled]
    constructor
    · rintro ⟨⟨status, output, diagnostics⟩, started, rfl, rfl, solid⟩
      exact ⟨⟨diagnostics, started⟩, solid⟩
    · rintro ⟨⟨diagnostics, started⟩, solid⟩
      exact ⟨_, started, rfl, rfl, solid⟩
  · intro failure
    rw [Dump.Source.supply_eq_error_iff]
    simp only [rendered_eq_error_iff, and_comm]

end Host

end LiveRange
