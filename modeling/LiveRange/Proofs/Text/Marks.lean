import LiveRange.Proofs.Text.Words
import LiveRange.Text.Search
import Mathlib.Data.List.Infix
import Mathlib.Data.List.TakeWhile

/-! Finding fixed marks in texts that are put together from pieces. -/

namespace LiveRange.Text

/-- A mark and what follows it. -/
def marked (mark : String) (rest : Text) : Text := mark.toList ++ rest

theorem trimStart_marked {mark : String} {first : Char} {others : Text}
    (spelled : mark.toList = first :: others) (solid : isBlank first = false) (rest : Text) :
    trimStart (marked mark rest) = marked mark rest := by
  apply trimStart_of_front
  intro c head
  rw [marked, spelled, List.cons_append, List.head?_cons, Option.mem_some_iff] at head
  exact head ▸ solid

theorem startsWith_cons_of_ne {mark : String} {first c : Char} {others : Text}
    (spelled : mark.toList = first :: others) (differ : c ≠ first) (rest : Text) :
    startsWith mark (c :: rest) = false := by
  have unequal : (first == c) = false := by simpa using differ.symm
  rw [startsWith, spelled, List.isPrefixOf_cons_cons, unequal, Bool.false_and]

/-- A mark that starts with a character which the front part lacks stands behind it. -/
theorem mentions_append_of_notMem {mark : String} {first : Char} {others front : Text}
    (spelled : mark.toList = first :: others) (absent : first ∉ front) (rest : Text) :
    mentions mark (front ++ rest) = mentions mark rest := by
  induction front with
  | nil => rfl
  | cons c front ih =>
      rw [List.mem_cons, not_or] at absent
      have here := startsWith_cons_of_ne spelled (Ne.symm absent.1) (front ++ rest)
      rw [List.cons_append, mentions, here, Bool.false_or, ih absent.2]

theorem mentions_of_notMem {mark : String} {first : Char} {others text : Text}
    (spelled : mark.toList = first :: others) (absent : first ∉ text) :
    mentions mark text = false := by
  have nothing : mentions mark [] = false := by
    simp [mentions, startsWith, spelled]
  rw [← List.append_nil text, mentions_append_of_notMem spelled absent, nothing]

theorem mentions_append_self (mark : String) (front rest : Text) :
    mentions mark (front ++ mark.toList ++ rest) = true :=
  mentions_iff.mpr ⟨front, rest, rfl⟩

theorem mentions_append_blank {mark : String} {first : Char} {others : Text}
    (spelled : mark.toList = first :: others) (solid : isBlank first = false) {blanks : Text}
    (blank : Blank blanks) (text : Text) : mentions mark (blanks ++ text) = mentions mark text := by
  apply mentions_append_of_notMem spelled
  intro member
  rw [blank first member] at solid
  cases solid

theorem mentions_reverse (mark : String) (text : Text) :
    mentions (String.ofList mark.toList.reverse) text.reverse = mentions mark text := by
  rw [Bool.eq_iff_iff, mentions_iff, mentions_iff, String.toList_ofList, List.reverse_infix]

/-- Blanks at the ends of a text hide no mark that neither starts nor ends with one. -/
theorem mentions_trim {mark : String} (solid : IsTrimmed mark.toList) (text : Text) :
    mentions mark text.trim = mentions mark text := by
  obtain ⟨front, back, blankFront, blankBack, whole⟩ := exists_eq_append_trim text
  have blankReversed : Blank back.reverse := fun c member =>
    blankBack c (List.mem_reverse.mp member)
  obtain ⟨first, others, spelled⟩ := List.exists_cons_of_ne_nil solid.nonempty
  obtain ⟨last, before, spelledBack⟩ :=
    List.exists_cons_of_ne_nil (List.reverse_ne_nil_iff.mpr solid.nonempty)
  have solidFirst : isBlank first = false := solid.front first (by rw [spelled]; rfl)
  have solidLast : isBlank last = false := solid.back last (by
    rw [← List.head?_reverse, spelledBack]
    rfl)
  have reversed : (String.ofList mark.toList.reverse).toList = last :: before := by
    rw [String.toList_ofList, spelledBack]
  calc mentions mark text.trim
      = mentions (String.ofList mark.toList.reverse) (back.reverse ++ text.trim.reverse) := by
        rw [mentions_append_blank reversed solidLast blankReversed, mentions_reverse]
    _ = mentions mark (text.trim ++ back) := by rw [← List.reverse_append, mentions_reverse]
    _ = mentions mark text := by
        rw [← mentions_append_blank spelled solidFirst blankFront, ← whole]

theorem after?_marked (mark : String) (rest : Text) : after? mark (marked mark rest) = some rest :=
  List.isPrefixOf?_eq_some_iff_append_eq.mpr rfl

theorem eq_marked_of_after? {mark : String} {text rest : Text}
    (found : after? mark text = some rest) : text = marked mark rest :=
  (List.isPrefixOf?_eq_some_iff_append_eq.mp found).symm

theorem after?_cons_of_ne {mark : String} {first c : Char} {others : Text}
    (spelled : mark.toList = first :: others) (differ : c ≠ first) (rest : Text) :
    after? mark (c :: rest) = none := by
  cases found : after? mark (c :: rest) with
  | none => rfl
  | some behind =>
      have whole := eq_marked_of_after? found
      rw [marked, spelled, List.cons_append] at whole
      exact absurd (List.cons.inj whole).1 differ

theorem after?_marked_of_ne {mark other : String} {first second : Char} {others rest : Text}
    (spelled : mark.toList = first :: others) (spelledOther : other.toList = second :: rest)
    (differ : second ≠ first) (behind : Text) : after? mark (marked other behind) = none := by
  rw [marked, spelledOther, List.cons_append]
  exact after?_cons_of_ne spelled differ _

theorem startsWith_marked_of_ne {mark other : String} {first second : Char} {others rest : Text}
    (spelled : mark.toList = first :: others) (spelledOther : other.toList = second :: rest)
    (differ : second ≠ first) (behind : Text) : startsWith mark (marked other behind) = false := by
  rw [marked, spelledOther, List.cons_append]
  exact startsWith_cons_of_ne spelled differ _

theorem eq_of_afterRun? {inRun : Char → Bool} {text rest : Text}
    (found : afterRun? inRun text = some rest) :
    ∃ run, run ≠ [] ∧ (∀ c ∈ run, inRun c = true) ∧ text = run ++ rest := by
  cases text with
  | nil => cases found
  | cons c text =>
      rw [afterRun?] at found
      split_ifs at found with begins
      refine ⟨c :: text.takeWhile inRun, List.cons_ne_nil _ _, ?_, ?_⟩
      · intro d member
        rcases List.mem_cons.mp member with rfl | taken
        · exact begins
        · exact List.mem_takeWhile_imp taken
      · rw [← Option.some.inj found, List.cons_append, List.takeWhile_append_dropWhile]

theorem outside_of_afterRun? {inRun : Char → Bool} {text rest : Text}
    (found : afterRun? inRun text = some rest) : ∀ c ∈ rest.head?, inRun c = false := by
  cases text with
  | nil => cases found
  | cons c text =>
      rw [afterRun?] at found
      split_ifs at found
      rw [← Option.some.inj found]
      exact outside_of_dropWhile inRun text

theorem startsWith_marked (mark : String) (rest : Text) :
    startsWith mark (marked mark rest) = true :=
  startsWith_iff.mpr (List.prefix_append mark.toList rest)

theorem afterRun?_append {inRun : Char → Bool} {run rest : Text} (nonempty : run ≠ [])
    (inside : ∀ c ∈ run, inRun c = true) (boundary : ∀ c ∈ rest.head?, inRun c = false) :
    afterRun? inRun (run ++ rest) = some rest := by
  obtain ⟨first, others, rfl⟩ := List.exists_cons_of_ne_nil nonempty
  have begins := inside first List.mem_cons_self
  have goesOn : ∀ c ∈ others, inRun c = true := fun c member =>
    inside c (List.mem_cons_of_mem first member)
  rw [List.cons_append, afterRun?, if_pos begins, dropWhile_run goesOn boundary]

section Stop

variable {stop : Char}

/-- What follows a character that is not in the mark takes no part in whether the mark is there. -/
theorem after?_append_stop {mark : String} (absent : stop ∉ mark.toList) (text rest : Text) :
    after? mark (text ++ stop :: rest) = (after? mark text).map (· ++ stop :: rest) := by
  rw [after?, after?]
  generalize mark.toList = spelled at absent
  induction spelled generalizing text with
  | nil => rfl
  | cons c others ih =>
      rw [List.mem_cons, not_or] at absent
      cases text with
      | nil => simp [List.isPrefixOf?, Ne.symm absent.1]
      | cons d text =>
          rw [List.cons_append, List.isPrefixOf?, List.isPrefixOf?]
          split_ifs
          · exact ih text absent.2
          · rfl

theorem dropWhile_append_stop {inRun : Char → Bool} (outside : inRun stop = false)
    (text rest : Text) :
    (text ++ stop :: rest).dropWhile inRun = text.dropWhile inRun ++ stop :: rest := by
  rw [List.dropWhile_append]
  split_ifs with nothing
  · rw [List.isEmpty_iff.mp nothing, List.dropWhile_cons_of_neg (by simp [outside]),
      List.nil_append]
  · rfl

theorem takeWhile_append_stop {inRun : Char → Bool} (outside : inRun stop = false)
    (text rest : Text) : (text ++ stop :: rest).takeWhile inRun = text.takeWhile inRun := by
  rw [List.takeWhile_append]
  split_ifs with whole
  · rw [List.takeWhile_cons_of_neg (by simp [outside]), List.append_nil]
    exact ((List.takeWhile_prefix inRun).eq_of_length whole).symm
  · rfl

theorem afterRun?_append_stop {inRun : Char → Bool} (outside : inRun stop = false)
    (text rest : Text) :
    afterRun? inRun (text ++ stop :: rest) = (afterRun? inRun text).map (· ++ stop :: rest) := by
  cases text with
  | nil => simp [afterRun?, outside]
  | cons c text =>
      rw [List.cons_append, afterRun?, afterRun?, dropWhile_append_stop outside]
      split_ifs <;> rfl

theorem trimStart_append_stop (solid : isBlank stop = false) (text rest : Text) :
    trimStart (text ++ stop :: rest) = trimStart text ++ stop :: rest := by
  rw [trimStart, dropWhile_append_stop solid]
  rfl

end Stop

end LiveRange.Text
