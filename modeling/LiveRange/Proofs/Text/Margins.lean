import LiveRange.Proofs.Text.Marks

/-! Blanks at the ends of a text have no part in its words, in its fields and in the marks that it
starts with. -/

namespace LiveRange.Text

theorem trimStart_append_of_not_blank {text : Text} (filled : ¬ Blank text) (behind : Text) :
    trimStart (text ++ behind) = trimStart text ++ behind := by
  have nonempty : ¬ (text.dropWhile isBlank).isEmpty = true := by
    rw [List.isEmpty_iff]
    exact mt trimStart_eq_nil_iff.mp filled
  rw [trimStart, List.dropWhile_append, if_neg nonempty]
  rfl

theorem trimEnd_append_of_not_blank {text : Text} (filled : ¬ Blank text) (front : Text) :
    trimEnd (front ++ text) = front ++ trimEnd text := by
  have reversed : ¬ Blank text.reverse := fun blank =>
    filled fun c member => blank c (List.mem_reverse.mpr member)
  have kept := trimStart_append_of_not_blank reversed front.reverse
  rw [trimStart, trimStart] at kept
  rw [trimEnd, trimEnd, List.reverse_append, kept, List.reverse_append, List.reverse_reverse]

theorem trimEnd_prefix (text : Text) : trimEnd text <+: text := by
  have suffix := List.dropWhile_suffix (l := text.reverse) isBlank
  rwa [← List.reverse_prefix, List.reverse_reverse] at suffix

theorem isTrimmed_trim {text : Text} (filled : ¬ Blank text) : IsTrimmed text.trim where
  nonempty := mt trim_eq_nil_iff.mp filled
  front := by
    intro c first
    obtain ⟨back, whole⟩ := trimEnd_prefix text.trimStart
    apply front_trimStart text c
    rw [← whole, List.head?_append, ← trim, Option.mem_def.mp first]
    rfl
  back := by
    intro c last
    rw [trim, trimEnd, List.getLast?_reverse] at last
    exact outside_of_dropWhile isBlank text.trimStart.reverse c last

section Behind

variable {blanks : Text} (blank : Blank blanks)

include blank

theorem Blank.append {text : Text} (other : Blank text) : Blank (text ++ blanks) := by
  intro c member
  rcases List.mem_append.mp member with front | back
  · exact other c front
  · exact blank c back

theorem trim_append_blank (text : Text) : trim (blanks ++ text) = trim text := by
  rw [trim, trim, trimStart_append_blank blank]

theorem trimEnd_append_blank (text : Text) : trimEnd (text ++ blanks) = trimEnd text := by
  have reversed : ∀ c ∈ blanks.reverse, isBlank c = true := by
    intro c member
    exact blank c (List.mem_reverse.mp member)
  rw [trimEnd, trimEnd, List.reverse_append, List.dropWhile_append_of_pos reversed]

theorem trim_append_blank_right (text : Text) : trim (text ++ blanks) = trim text := by
  by_cases nothing : Blank text
  · rw [trim_eq_nil_iff.mpr nothing]
    exact trim_eq_nil_iff.mpr (Blank.append blank nothing)
  · rw [trim, trim, trimStart_append_of_not_blank nothing, trimEnd_append_blank blank]

section Run

variable {inRun : Char → Bool} (outside : ∀ c, isBlank c = true → inRun c = false) (text : Text)

include outside

/-- A run of characters that are no blanks ends in front of the blanks. -/
theorem takeWhile_append_blank : (text ++ blanks).takeWhile inRun = text.takeWhile inRun := by
  cases blanks with
  | nil => rw [List.append_nil]
  | cons c rest => exact takeWhile_append_stop (outside c (blank c List.mem_cons_self)) text rest

theorem dropWhile_append_blank :
    (text ++ blanks).dropWhile inRun = text.dropWhile inRun ++ blanks := by
  cases blanks with
  | nil => rw [List.append_nil, List.append_nil]
  | cons c rest => exact dropWhile_append_stop (outside c (blank c List.mem_cons_self)) text rest

theorem afterRun?_append_blank :
    afterRun? inRun (text ++ blanks) = (afterRun? inRun text).map (· ++ blanks) := by
  cases blanks with
  | nil => simp
  | cons c rest => exact afterRun?_append_stop (outside c (blank c List.mem_cons_self)) text rest

end Run

/-- Blanks do not complete a mark that ends with none. -/
theorem IsTrimmed.prefix_of_append {mark text : Text} (solid : IsTrimmed mark)
    (whole : mark <+: text ++ blanks) : mark <+: text := by
  rcases List.prefix_or_prefix_of_prefix whole (List.prefix_append text blanks) with
    inside | ⟨behind, rfl⟩
  · exact inside
  · -- A mark that reached into the blanks would end with one of them.
    have taken : behind <+: blanks := (List.prefix_append_right_inj text).mp whole
    cases last : behind.getLast? with
    | none =>
        rw [List.getLast?_eq_none_iff.mp last, List.append_nil]
    | some c =>
        have member : c ∈ blanks := taken.subset (List.mem_of_getLast? last)
        have final : (text ++ behind).getLast? = some c := by
          rw [List.getLast?_append, last, Option.some_or]
        have outside := solid.back c final
        rw [blank c member] at outside
        cases outside

theorem after?_append_blank {mark : String} (solid : IsTrimmed mark.toList) (text : Text) :
    after? mark (text ++ blanks) = (after? mark text).map (· ++ blanks) := by
  cases whole : after? mark (text ++ blanks) with
  | none =>
      cases found : after? mark text with
      | none => rfl
      | some rest =>
          rw [eq_marked_of_after? found, marked, List.append_assoc, ← marked,
            after?_marked] at whole
          cases whole
  | some rest =>
      have split := eq_marked_of_after? whole
      have inside : mark.toList <+: text := by
        apply solid.prefix_of_append blank
        rw [split]
        exact List.prefix_append mark.toList rest
      obtain ⟨behind, front⟩ := inside
      rw [← front, marked, List.append_assoc] at split
      rw [← front, ← List.append_cancel_left split, ← marked, after?_marked]
      rfl

theorem fields_append_blank_right (limit : Nat) (row : Text) :
    fields limit (row ++ blanks) = fields limit row := by
  have solid : ∀ c, isBlank c = true → (!isBlank c) = false := by
    intro c here
    rw [here]
    rfl
  -- On the limit: the first field is the same, and the blanks stay behind what follows it.
  induction limit using Nat.strongRecOn generalizing row with
  | ind limit ih =>
      match limit with
      | 0 | 1 =>
          change (if trim (row ++ blanks) = [] then [] else [trim (row ++ blanks)]) =
            if trim row = [] then [] else [trim row]
          rw [trim_append_blank_right blank]
      | limit + 2 =>
          by_cases nothing : Blank row
          · rw [fields, fields, trimStart_eq_nil_iff.mpr nothing,
              trimStart_eq_nil_iff.mpr (Blank.append blank nothing)]
          · rw [fields, fields, trimStart_append_of_not_blank nothing]
            cases opening : row.trimStart with
            | nil => exact absurd (trimStart_eq_nil_iff.mp opening) nothing
            | cons first others =>
                have later := ih (limit + 1) (by omega)
                  ((first :: others).dropWhile (!isBlank ·))
                rw [← dropWhile_append_blank blank solid] at later
                have taken := takeWhile_append_blank blank solid (first :: others)
                rw [List.cons_append] at later taken
                simp only [List.cons_append, taken, later]

end Behind

/-- What does not see blanks at either end of a text is told by what stands between them. -/
theorem eq_trim_of_append_blank {β : Type} (read : Text → β)
    (before : ∀ {blanks}, Blank blanks → ∀ text, read (blanks ++ text) = read text)
    (behind : ∀ {blanks}, Blank blanks → ∀ text, read (text ++ blanks) = read text)
    (text : Text) : read text.trim = read text := by
  have ⟨front, back, blankFront, blankBack, whole⟩ := exists_eq_append_trim text
  calc read text.trim
      = read (text.trim ++ back) := (behind blankBack _).symm
    _ = read (front ++ (text.trim ++ back)) := (before blankFront _).symm
    _ = read text := by rw [← whole]

theorem fields_trim (limit : Nat) (row : Text) : fields limit row.trim = fields limit row :=
  eq_trim_of_append_blank (fields limit) (fields_append_blank limit)
    (fun blank => fields_append_blank_right blank limit) row

theorem trim_trim (text : Text) : text.trim.trim = text.trim :=
  eq_trim_of_append_blank trim trim_append_blank trim_append_blank_right text

theorem trim_trimStart (text : Text) : text.trimStart.trim = text.trim := by
  have ⟨front, blank, whole⟩ := exists_eq_append_trimStart text
  conv => rhs; rw [whole]
  rw [trim_append_blank blank]

theorem startsWith_eq_isSome (mark : String) (text : Text) :
    startsWith mark text = (after? mark text).isSome :=
  (List.isSome_isPrefixOf?_eq_isPrefixOf _ _).symm

/-- The part of a text that a line is told by, behind its indentation. -/
theorem startsWith_trimStart_trim {mark : String} (solid : IsTrimmed mark.toList) (text : Text) :
    startsWith mark text.trim.trimStart = startsWith mark text.trimStart := by
  apply eq_trim_of_append_blank fun text => startsWith mark (trimStart text)
  · intro blanks blank text
    rw [trimStart_append_blank blank]
  · intro blanks blank text
    by_cases nothing : Blank text
    · rw [trimStart_eq_nil_iff.mpr nothing, trimStart_eq_nil_iff.mpr (Blank.append blank nothing)]
    · rw [trimStart_append_of_not_blank nothing, startsWith_eq_isSome, startsWith_eq_isSome,
        after?_append_blank blank solid, Option.isSome_map]

end LiveRange.Text
