import LiveRange.Proofs.Text.Words
import LiveRange.Text.Lines
import Mathlib.Data.List.Basic

/-! Texts printed line by line are read back line by line. -/

namespace LiveRange.Text

/-- Every line with a line feed behind it. -/
def unlines (lines : List Text) : Text := lines.flatMap (· ++ ['\n'])

theorem splitOn_unlines {lines : List Text} (single : ∀ line ∈ lines, '\n' ∉ line) :
    (unlines lines).splitOn '\n' = lines ++ [[]] := by
  induction lines with
  | nil => rfl
  | cons line lines ih =>
      have here := single line List.mem_cons_self
      have later := ih fun other member => single other (List.mem_cons_of_mem line member)
      rw [unlines, List.flatMap_cons, List.append_assoc, List.singleton_append,
        List.splitOn_append_cons_self_of_not_mem here]
      rw [unlines] at later
      rw [later, List.cons_append]

theorem lines_unlines {lines : List Text} (single : ∀ line ∈ lines, '\n' ∉ line) :
    (unlines lines).lines = lines.map dropReturn := by
  rw [Text.lines, splitOn_unlines single]
  simp

/-- Every line of the text has a line feed behind it. -/
def Ended (text : Text) : Prop := text = [] ∨ text.getLast? = some '\n'

instance (text : Text) : Decidable text.Ended :=
  inferInstanceAs (Decidable (text = [] ∨ text.getLast? = some '\n'))

theorem Ended.append {front : Text} (ended : Ended front) {rest : Text} (behind : Ended rest) :
    Ended (front ++ rest) := by
  rcases behind with rfl | feed
  · rwa [List.append_nil]
  · refine Or.inr ?_
    rw [List.getLast?_append, feed, Option.some_or]

theorem lines_append {front : Text} (ended : Ended front) (rest : Text) :
    lines (front ++ rest) = lines front ++ lines rest := by
  rcases ended with rfl | feed
  · rfl
  · obtain ⟨before, rfl⟩ := List.getLast?_eq_some_iff.mp feed
    have pieces := List.splitOn_ne_nil '\n' rest
    have alone : lines (before ++ ['\n']) = (before.splitOn '\n').map dropReturn := by
      rw [lines, List.splitOn_append_cons_self]
      simp [List.splitOn_nil]
    rw [alone, List.append_assoc, List.singleton_append, lines, lines,
      List.splitOn_append_cons_self]
    simp only [List.dropLast_append_of_ne_nil pieces, List.getLast?_append_of_ne_nil _ pieces,
      List.map_append, List.append_assoc]

/-- A line of a text, without its line feed, between what stands in front of it and behind. -/
structure IsLineOf (before line after : Text) : Prop where
  ended : before.Ended
  single : '\n' ∉ line
  boundary : ∀ c ∈ after.head?, c = '\n'

theorem lines_of_single {line : Text} (single : '\n' ∉ line) (filled : line ≠ []) :
    lines line = [line] := by
  rw [lines, List.splitOn_eq_singleton single]
  simp [filled]

theorem IsLineOf.lines {before line after : Text} (whole : IsLineOf before line after)
    (filled : line ≠ []) :
    Text.lines (before ++ (line ++ after)) = Text.lines before ++
      (if after = [] then line else dropReturn line) :: Text.lines (after.drop 1) := by
  rw [lines_append whole.ended]
  congr 1
  cases after with
  | nil =>
      rw [List.append_nil, lines_of_single whole.single filled]
      rfl
  | cons c rest =>
      have feed : c = '\n' := whole.boundary c rfl
      have alone : Text.lines (line ++ ['\n']) = [dropReturn line] := by
        have one : ∀ other ∈ [line], '\n' ∉ other := by
          intro other member
          rw [List.mem_singleton.mp member]
          exact whole.single
        have printed := lines_unlines one
        rwa [unlines, List.flatMap_singleton, List.map_singleton] at printed
      have ended : Ended (line ++ ['\n']) := Or.inr List.getLast?_concat
      have split : line ++ c :: rest = line ++ ['\n'] ++ rest := by
        rw [feed, List.append_assoc, List.singleton_append]
      rw [split, lines_append ended, alone, if_neg (List.cons_ne_nil c rest)]
      rfl

/-- Nothing of the line is taken for its end. -/
structure IsLine (line : Text) : Prop where
  single : '\n' ∉ line
  back : line.getLast? ≠ some '\r'

instance (line : Text) : Decidable line.IsLine :=
  decidable_of_iff ('\n' ∉ line ∧ line.getLast? ≠ some '\r')
    ⟨fun ⟨single, back⟩ => ⟨single, back⟩, fun whole => ⟨whole.single, whole.back⟩⟩

theorem dropReturn_of_back {line : Text} (back : line.getLast? ≠ some '\r') :
    dropReturn line = line :=
  if_neg back

theorem lines_unlines_of_isLine {lines : List Text} (whole : ∀ line ∈ lines, IsLine line) :
    (unlines lines).lines = lines := by
  rw [lines_unlines fun line member => (whole line member).single]
  conv_rhs => rw [← List.map_id lines]
  apply List.map_congr_left
  intro line member
  exact dropReturn_of_back (whole line member).back

/-- Only the end of a line can lose a carriage return. -/
theorem dropReturn_append_cons {c : Char} (other : c ≠ '\r') (front rest : Text) :
    dropReturn (front ++ c :: rest) = front ++ c :: dropReturn rest := by
  cases rest with
  | nil =>
      have kept : (front ++ [c]).getLast? ≠ some '\r' := by
        rw [List.getLast?_concat]
        exact fun same => other (Option.some.inj same)
      exact dropReturn_of_back kept
  | cons d rest =>
      have same : (front ++ c :: d :: rest).getLast? = (d :: rest).getLast? := by
        rw [List.getLast?_append, List.getLast?_cons_cons, List.getLast?_cons, Option.some_or]
      rw [dropReturn, dropReturn, same]
      split
      · rw [List.dropLast_append_of_ne_nil (List.cons_ne_nil c _), List.dropLast_cons_cons]
      · rfl

theorem dropReturn_prefix (line : Text) : dropReturn line <+: line := by
  rw [dropReturn]
  split
  · exact List.dropLast_prefix line
  · exact List.prefix_rfl

theorem IsTrimmed.isLine {text : Text} (trimmed : IsTrimmed text) (single : '\n' ∉ text) :
    IsLine text where
  single := single
  back := by
    intro last
    have solid := trimmed.back '\r' last
    cases solid

theorem IsWord.isLine {word : Text} (solid : IsWord word) : IsLine word :=
  solid.isTrimmed.isLine fun member => by cases solid.2 '\n' member

/-- A line keeps its end behind anything on the same line. -/
theorem IsLine.append {rest : Text} (line : IsLine rest) (nonempty : rest ≠ []) {front : Text}
    (single : '\n' ∉ front) : IsLine (front ++ rest) where
  single := by
    rw [List.mem_append, not_or]
    exact ⟨single, line.single⟩
  back := by
    rw [List.getLast?_append_of_ne_nil front nonempty]
    exact line.back

end LiveRange.Text
