import Mathlib.Data.Nat.Find
import Mathlib.Order.Basic

/-! Of the positions that tell a value, the last up to a bound and the first of all. What a sequence
of states holds is what the last position tells that tells a value. -/

namespace LiveRange

variable {β : Type}

/-- Of the positions from `start` up to `stop`, the last that tells a value is `k`, which tells
this one. -/
structure LastTold (start stop : Nat) (tells : Nat → β → Prop) (k : Nat) (value : β) : Prop where
  behind : start ≤ k
  before : k < stop
  told : tells k value
  silent : ∀ later < stop, k < later → ∀ other, ¬ tells later other

namespace LastTold

variable {start stop k : Nat} {tells : Nat → β → Prop} {value : β}

theorem succ_iff (ordered : start ≤ stop) :
    LastTold start (stop + 1) tells k value ↔ k = stop ∧ tells stop value ∨
      (∀ other, ¬ tells stop other) ∧ LastTold start stop tells k value := by
  constructor
  · rintro ⟨behind, before, told, silent⟩
    rcases Nat.lt_succ_iff_lt_or_eq.mp before with earlier | rfl
    · refine Or.inr ⟨silent stop (Nat.lt_succ_self stop) earlier, behind, earlier, told, ?_⟩
      intro later inside
      exact silent later (Nat.lt_succ_of_lt inside)
    · exact Or.inl ⟨rfl, told⟩
  · rintro (⟨rfl, told⟩ | ⟨quiet, behind, before, told, silent⟩)
    · refine ⟨ordered, Nat.lt_succ_self k, told, ?_⟩
      intro later inside above
      exact absurd above (Nat.not_lt.mpr (Nat.lt_succ_iff.mp inside))
    · refine ⟨behind, Nat.lt_succ_of_lt before, told, ?_⟩
      intro later inside above
      rcases Nat.lt_succ_iff_lt_or_eq.mp inside with earlier | rfl
      · exact silent later earlier above
      · exact quiet

theorem map_iff {γ : Type} {image : β → γ}
    (only : ∀ other, image other = image value ↔ other = value) :
    LastTold start stop (fun k shown => ∃ other, tells k other ∧ image other = shown) k
        (image value) ↔ LastTold start stop tells k value := by
  constructor
  · rintro ⟨behind, before, ⟨other, told, same⟩, silent⟩
    rw [(only other).mp same] at told
    refine ⟨behind, before, told, ?_⟩
    intro later inside above other told
    exact silent later inside above (image other) ⟨other, told, rfl⟩
  · rintro ⟨behind, before, told, silent⟩
    refine ⟨behind, before, ⟨value, told, rfl⟩, ?_⟩
    rintro later inside above _ ⟨other, told, rfl⟩
    exact silent later inside above other told

/-- A value holds behind the last position that tells it, and else if it holds from the start. -/
theorem holds_iff (holds tells : Nat → β → Prop) (ordered : start ≤ stop)
    (each : ∀ k < stop, start ≤ k → ∀ value, holds (k + 1) value ↔
      tells k value ∨ (∀ other, ¬ tells k other) ∧ holds k value) (value : β) :
    holds stop value ↔ (∃ k, LastTold start stop tells k value) ∨
      (∀ k < stop, start ≤ k → ∀ other, ¬ tells k other) ∧ holds start value := by
  induction ordered with
  | refl =>
      constructor
      · intro held
        exact Or.inr ⟨fun k before behind => absurd before (Nat.not_lt.mpr behind), held⟩
      · rintro (⟨k, behind, before, _⟩ | ⟨_, held⟩)
        · exact absurd before (Nat.not_lt.mpr behind)
        · exact held
  | @step stop ordered ih =>
      have earlier := ih fun k before => each k (Nat.lt_succ_of_lt before)
      rw [each stop (Nat.lt_succ_self stop) ordered, earlier]
      simp only [Nat.succ_eq_add_one, succ_iff ordered]
      constructor
      · rintro (told | ⟨quiet, ⟨k, last⟩ | ⟨silent, held⟩⟩)
        · exact Or.inl ⟨stop, Or.inl ⟨rfl, told⟩⟩
        · exact Or.inl ⟨k, Or.inr ⟨quiet, last⟩⟩
        · refine Or.inr ⟨?_, held⟩
          intro k before behind
          rcases Nat.lt_succ_iff_lt_or_eq.mp before with inside | rfl
          · exact silent k inside behind
          · exact quiet
      · rintro (⟨k, ⟨_, told⟩ | ⟨quiet, last⟩⟩ | ⟨silent, held⟩)
        · exact Or.inl told
        · exact Or.inr ⟨quiet, Or.inl ⟨k, last⟩⟩
        · refine Or.inr ⟨silent stop (Nat.lt_succ_self stop) ordered, Or.inr ⟨?_, held⟩⟩
          exact fun k before => silent k (Nat.lt_succ_of_lt before)

end LastTold

/-- The first position that tells a value is `k`, which tells this one. -/
structure FirstTold (tells : Nat → β → Prop) (k : Nat) (value : β) : Prop where
  told : tells k value
  silent : ∀ earlier < k, ∀ other, ¬ tells earlier other

namespace FirstTold

variable {tells : Nat → β → Prop}

theorem exists_iff_zero_or_succ (value : β) :
    (∃ k, FirstTold tells k value) ↔ tells 0 value ∨
      (∀ other, ¬ tells 0 other) ∧ ∃ k, FirstTold (fun k => tells (k + 1)) k value := by
  constructor
  · rintro ⟨_ | k, told, silent⟩
    · exact Or.inl told
    · refine Or.inr ⟨silent 0 (Nat.succ_pos k), k, told, ?_⟩
      exact fun earlier before => silent (earlier + 1) (Nat.succ_lt_succ before)
  · rintro (told | ⟨quiet, k, told, silent⟩)
    · exact ⟨0, told, fun earlier before => absurd before (Nat.not_lt_zero earlier)⟩
    · refine ⟨k + 1, told, ?_⟩
      rintro (_ | earlier) before
      · exact quiet
      · exact silent earlier (Nat.lt_of_succ_lt_succ before)

end FirstTold

end LiveRange
