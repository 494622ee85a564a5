import LiveRange.Proofs.Text.Lines
import LiveRange.Proofs.Text.Margins
import Mathlib.Data.List.Forall2

/-! The layout of a text: the blanks at the ends of its lines, its blank lines, and how its lines
end. What is left of the lines without it is the same in every layout. -/

namespace LiveRange.Text

/-- The lines that hold more than blanks. -/
def filledLines (text : Text) : List Text := text.lines.filter (·.trim ≠ [])

/-- What stands between the blanks at the ends of the lines, where there is something. -/
def trimmedLines (text : Text) : List Text := ((text.splitOn '\n').map trim).filter (· ≠ [])

theorem trim_dropReturn (line : Text) : (dropReturn line).trim = line.trim := by
  rw [dropReturn]
  split_ifs with back
  · obtain ⟨front, whole⟩ := List.getLast?_eq_some_iff.mp back
    have blank : Blank ['\r'] := by decide
    rw [whole, List.dropLast_concat, trim_append_blank_right blank]
  · rfl

theorem map_trim_filledLines (text : Text) : text.filledLines.map trim = text.trimmedLines := by
  have ⟨front, last, pieces⟩ :=
    (List.eq_nil_or_concat' (text.splitOn '\n')).resolve_left (List.splitOn_ne_nil '\n' text)
  have same : trim ∘ dropReturn = trim := funext trim_dropReturn
  have final : (([last].filter (· ≠ [])).map trim).filter (· ≠ []) =
      ([last].map trim).filter (· ≠ []) := by
    cases last with
    | nil => rfl
    | cons c rest => rfl
  calc text.filledLines.map trim
      = (text.lines.map trim).filter (· ≠ []) := by
        rw [filledLines, List.filter_map]
        rfl
    _ = (front.map trim).filter (· ≠ []) ++
          (([last].filter (· ≠ [])).map trim).filter (· ≠ []) := by
        simp only [lines, pieces, List.dropLast_concat, List.getLast?_concat, Option.toList_some,
          List.map_append, List.map_map, same, List.filter_append]
    _ = text.trimmedLines := by
        rw [final, trimmedLines, pieces, List.map_append, List.filter_append]

theorem trimmedLines_append_cons (front behind : Text) :
    trimmedLines (front ++ '\n' :: behind) = trimmedLines front ++ trimmedLines behind := by
  rw [trimmedLines, List.splitOn_append_cons_self, List.map_append, List.filter_append]
  rfl

theorem trimmedLines_of_single {line : Text} (single : '\n' ∉ line) :
    trimmedLines line = [line.trim].filter (· ≠ []) := by
  rw [trimmedLines, List.splitOn_eq_singleton single]
  rfl

theorem trimmedLines_of_blank {line : Text} (blank : Blank line) (single : '\n' ∉ line) :
    trimmedLines line = [] := by
  rw [trimmedLines_of_single single, trim_eq_nil_iff.mpr blank]
  rfl

theorem trimmedLines_append {front : Text} (ended : Ended front) (behind : Text) :
    trimmedLines (front ++ behind) = trimmedLines front ++ trimmedLines behind := by
  have nothing : trimmedLines [] = [] := rfl
  rcases ended with rfl | feed
  · rw [nothing, List.nil_append, List.nil_append]
  · have ⟨before, whole⟩ := List.getLast?_eq_some_iff.mp feed
    rw [whole, List.append_assoc, List.singleton_append, trimmedLines_append_cons,
      trimmedLines_append_cons, nothing, List.append_nil]

/-- Of a line only what stands between its blanks is left. -/
theorem IsLineOf.trimmedLines {before line after : Text} (whole : IsLineOf before line after) :
    Text.trimmedLines (before ++ (line ++ after)) = Text.trimmedLines before ++
      ([line.trim].filter (· ≠ []) ++ Text.trimmedLines (after.drop 1)) := by
  rw [trimmedLines_append whole.ended]
  congr 1
  cases after with
  | nil =>
      rw [List.append_nil, trimmedLines_of_single whole.single]
      exact (List.append_nil _).symm
  | cons c rest =>
      have feed : c = '\n' := whole.boundary c rfl
      rw [feed, trimmedLines_append_cons, trimmedLines_of_single whole.single]
      rfl

/-- One change of the layout. -/
inductive Relaid : Text → Text → Prop
  /-- Blanks are added at the ends of a line. -/
  | margins {before line after front back : Text} (whole : IsLineOf before line after)
      (blankFront : Blank front) (blankBack : Blank back) (single : '\n' ∉ front ++ back) :
      Relaid (before ++ (line ++ after)) (before ++ (front ++ line ++ back ++ after))
  /-- A line ends in a carriage return and a line feed. -/
  | returned {before line after : Text} (whole : IsLineOf before line ('\n' :: after)) :
      Relaid (before ++ (line ++ '\n' :: after)) (before ++ (line ++ '\r' :: '\n' :: after))
  /-- A blank line is put in front of a line. -/
  | blankLine {before line after : Text} (ended : before.Ended) (blank : Blank line)
      (single : '\n' ∉ line) : Relaid (before ++ after) (before ++ (line ++ '\n' :: after))
  /-- A blank line is put behind the last one. -/
  | blankEnd {text line : Text} (blank : Blank line) (single : '\n' ∉ line) :
      Relaid text (text ++ '\n' :: line)

theorem trimmedLines_of_margins {before line after front back : Text}
    (whole : IsLineOf before line after) (blankFront : Blank front) (blankBack : Blank back)
    (single : '\n' ∉ front ++ back) :
    trimmedLines (before ++ (line ++ after)) =
      trimmedLines (before ++ (front ++ line ++ back ++ after)) := by
  rw [List.mem_append, not_or] at single
  have wider : IsLineOf before (front ++ line ++ back) after := by
    refine ⟨whole.ended, ?_, whole.boundary⟩
    simp only [List.mem_append, not_or]
    exact ⟨⟨single.1, whole.single⟩, single.2⟩
  rw [whole.trimmedLines, wider.trimmedLines, trim_append_blank_right blankBack,
    trim_append_blank blankFront]

theorem trimmedLines_of_relaid {text other : Text} (relaid : Relaid text other) :
    text.trimmedLines = other.trimmedLines := by
  cases relaid with
  | margins whole blankFront blankBack single =>
      exact trimmedLines_of_margins whole blankFront blankBack single
  | @returned before line after whole =>
      have nothing : Blank [] := by decide
      have carriage : Blank ['\r'] := by decide
      have same := trimmedLines_of_margins whole nothing carriage (by decide)
      rwa [List.nil_append, List.append_assoc line, List.singleton_append] at same
  | blankLine ended blank single =>
      rw [trimmedLines_append ended, trimmedLines_append ended, trimmedLines_append_cons,
        trimmedLines_of_blank blank single, List.nil_append]
  | blankEnd blank single =>
      rw [trimmedLines_append_cons, trimmedLines_of_blank blank single, List.append_nil]

/-- Two lines with the same text between their blanks. -/
def SameInside (line other : Text) : Prop := line.trim = other.trim

namespace SameInside

variable {line other : Text} (same : SameInside line other)

include same

theorem words_eq : line.words = other.words := by
  rw [← words_trim, same, words_trim]

theorem fields_eq (limit : Nat) : line.fields limit = other.fields limit := by
  rw [← fields_trim, same, fields_trim]

theorem mentions_eq {mark : String} (solid : IsTrimmed mark.toList) :
    line.mentions mark = other.mentions mark := by
  rw [← mentions_trim solid, same, mentions_trim solid]

theorem startsWith_eq {mark : String} (solid : IsTrimmed mark.toList) :
    line.trimStart.startsWith mark = other.trimStart.startsWith mark := by
  rw [← startsWith_trimStart_trim solid, same, startsWith_trimStart_trim solid]

end SameInside

theorem sameInside_of_trimmedLines {text other : Text}
    (same : text.trimmedLines = other.trimmedLines) :
    List.Forall₂ SameInside text.filledLines other.filledLines := by
  rw [← map_trim_filledLines, ← map_trim_filledLines, ← List.forall₂_eq_eq_eq,
    List.forall₂_map_left_iff, List.forall₂_map_right_iff] at same
  exact same

end LiveRange.Text
