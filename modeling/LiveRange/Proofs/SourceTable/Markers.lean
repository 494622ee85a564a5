import LiveRange.Proofs.Text.Marks
import LiveRange.SourceTable.LineDump

/-! The lines of a dump of line-number programs that open or close something, told by their text. -/

namespace LiveRange

namespace Text

theorem prefix_of_words {text word : Text} {others : List Text}
    (words : text.words = word :: others) : word <+: text.trimStart := by
  rw [(split_of_words words).1]
  exact List.prefix_append word _

/-- Of two marks that do not start one another, a text starts with one at most. -/
theorem startsWith_of_apart {mark other : String} {text : Text}
    (apart : ¬ mark.toList <+: other.toList ∧ ¬ other.toList <+: mark.toList)
    (marked : mark.toList <+: text) : text.startsWith other = false := by
  rw [Bool.eq_false_iff, Ne, startsWith_iff]
  intro both
  exact (List.prefix_or_prefix_of_prefix marked both).elim apart.1 apart.2

end Text

namespace Marker

/-- Where the rows below a marker belong. -/
def region : Marker → Region
  | directories => .directories
  | files => .files
  | unit _ | statements => .outside

/-- Every marker but the header of a program. -/
def IsTitle (marker : Marker) : Prop := ∀ token, marker ≠ unit token

theorem ofLine?_eq_unit_iff {line token : Text} :
    ofLine? line = some (unit token) ↔ unitToken? line = some token := by
  rw [ofLine?]
  cases unitToken? line with
  | some other => simp
  | none =>
      simp only
      split_ifs <;> simp

theorem unitToken?_of_opening {line rest : Text} {c : Char} (blank : isBlank c = true)
    (opening : line.trimStart = Text.marked "Offset:" (c :: rest)) :
    unitToken? line =
      if rest.trimStart = [] then none else some (rest.trimStart.takeWhile (!isBlank ·)) := by
  rw [unitToken?, opening, Text.after?_marked]
  simp only [Option.bind_eq_bind, Option.bind_some, Text.afterRun?, if_pos blank]
  rfl

theorem exists_opening_of_unitToken? {line token : Text} (found : unitToken? line = some token) :
    ∃ (c : Char) (rest : Text), isBlank c = true ∧
      line.trimStart = Text.marked "Offset:" (c :: rest) := by
  cases marked : Text.after? "Offset:" line.trimStart with
  | none => simp [unitToken?, marked] at found
  | some behind =>
      cases spaced : Text.afterRun? isBlank behind with
      | none => simp [unitToken?, marked, spaced] at found
      | some _ =>
          cases behind with
          | nil => cases spaced
          | cons c rest =>
              refine ⟨c, rest, ?_, Text.eq_marked_of_after? marked⟩
              by_contra other
              rw [Text.afterRun?, if_neg other] at spaced
              cases spaced

/-- A program header is a row of at least two words, the first of which is its mark. -/
theorem unitToken?_eq_some_iff {line token : Text} :
    unitToken? line = some token ↔ ∃ others, line.words = "Offset:".toList :: token :: others := by
  have solid : Text.IsWord "Offset:".toList := by decide
  constructor
  · intro found
    obtain ⟨c, rest, blank, opening⟩ := exists_opening_of_unitToken? found
    rw [unitToken?_of_opening blank opening] at found
    split_ifs at found with nothing
    have filled : ¬ rest.Blank := mt Text.trimStart_eq_nil_iff.mpr nothing
    refine ⟨rest.behindFirst.words, ?_⟩
    rw [← Text.words_trimStart, opening, Text.marked, solid.words_cons blank,
      Text.words_of_not_blank filled, Option.some.inj found]
  · intro found
    obtain ⟨others, words⟩ := found
    obtain ⟨whole, later⟩ := Text.split_of_words words
    have boundary : ∀ c ∈ line.behindFirst.head?, isBlank c = true :=
      Text.blank_of_dropWhile line.trimStart
    cases behind : line.behindFirst with
    | nil => simp [behind] at later
    | cons c rest =>
        rw [behind] at whole boundary later
        have blank := boundary c rfl
        rw [Text.words_cons_blank blank] at later
        have filled := Text.not_blank_of_words later
        rw [Text.words_of_not_blank filled, List.cons.injEq] at later
        rw [unitToken?_of_opening blank whole,
          if_neg (mt Text.trimStart_eq_nil_iff.mp filled), later.1]

/-- The marks of the titles of tables. -/
def titles : List String :=
  ["The Directory Table", "The File Name Table", "Line Number Statements",
    "No Line Number Statements"]

theorem ofLine?_eq_none_iff {line : Text} : ofLine? line = none ↔
    unitToken? line = none ∧ ∀ mark ∈ titles, line.trimStart.startsWith mark = false := by
  rw [ofLine?, titles]
  cases unitToken? line with
  | some token => simp
  | none =>
      simp only
      split_ifs <;> simp_all

/-- A line shows the marker by its first words, or by the title that it starts with, the margin
aside. -/
inductive Marks : Marker → Text → Prop
  | unit {line token : Text} {others : List Text}
      (words : line.words = "Offset:".toList :: token :: others) : Marks (unit token) line
  | directories {line : Text} (titled : "The Directory Table".toList <+: line.trimStart) :
      Marks directories line
  | files {line : Text} (titled : "The File Name Table".toList <+: line.trimStart) :
      Marks files line
  | statements {line : Text} (titled : "Line Number Statements".toList <+: line.trimStart) :
      Marks statements line
  | noStatements {line : Text} (titled : "No Line Number Statements".toList <+: line.trimStart) :
      Marks statements line

/-- A line starts with one of the titles at most, and then heads no program. -/
theorem title_alone {mark : String} (title : mark ∈ titles) {line : Text}
    (titled : mark.toList <+: line.trimStart) :
    unitToken? line = none ∧
      ∀ other ∈ titles, line.trimStart.startsWith other = decide (mark = other) := by
  have unheaded : ∀ mark ∈ titles,
      ¬ mark.toList <+: "Offset:".toList ∧ ¬ "Offset:".toList <+: mark.toList := by decide
  have apart : ∀ mark ∈ titles, ∀ other ∈ titles, mark ≠ other →
      ¬ mark.toList <+: other.toList ∧ ¬ other.toList <+: mark.toList := by decide
  constructor
  · by_contra headed
    obtain ⟨token, found⟩ := Option.ne_none_iff_exists'.mp headed
    obtain ⟨others, words⟩ := unitToken?_eq_some_iff.mp found
    have marked := Text.startsWith_of_apart (unheaded mark title) titled
    rw [Text.startsWith_iff.mpr (Text.prefix_of_words words)] at marked
    cases marked
  · intro other titleOther
    by_cases same : mark = other
    · rw [← same, Text.startsWith_iff.mpr titled, decide_eq_true rfl]
    · rw [Text.startsWith_of_apart (apart mark title other titleOther same) titled,
        decide_eq_false same]

theorem Marks.of_ofLine? {line : Text} {marker : Marker} (found : ofLine? line = some marker) :
    marker.Marks line := by
  rw [ofLine?] at found
  cases header : unitToken? line with
  | some token =>
      rw [header] at found
      cases found
      obtain ⟨others, words⟩ := unitToken?_eq_some_iff.mp header
      exact .unit words
  | none =>
      rw [header] at found
      simp only at found
      split_ifs at found with directories files statements none
      · cases found
        exact .directories (Text.startsWith_iff.mp directories)
      · cases found
        exact .files (Text.startsWith_iff.mp files)
      · cases found
        exact .statements (Text.startsWith_iff.mp statements)
      · cases found
        exact .noStatements (Text.startsWith_iff.mp none)

theorem ofLine?_eq_some_iff {line : Text} {marker : Marker} :
    ofLine? line = some marker ↔ marker.Marks line := by
  constructor
  · exact Marks.of_ofLine?
  · intro marks
    cases marks with
    | unit words => exact ofLine?_eq_unit_iff.mpr (unitToken?_eq_some_iff.mpr ⟨_, words⟩)
    | directories titled | files titled | statements titled | noStatements titled =>
        obtain ⟨headless, alone⟩ := title_alone (by decide) titled
        simp only [titles, List.forall_mem_cons] at alone
        simp only [ofLine?, headless, alone]
        rfl

theorem ofLine?_eq_none_iff_marks {line : Text} :
    ofLine? line = none ↔ ∀ marker : Marker, ¬ marker.Marks line := by
  simp only [Option.eq_none_iff_forall_ne_some, Ne, ofLine?_eq_some_iff]

end Marker

end LiveRange
