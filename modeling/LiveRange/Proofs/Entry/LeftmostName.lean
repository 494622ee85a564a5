import LiveRange.Proofs.Entry.InfoLine
import LiveRange.Proofs.Told

/-! The attribute of a line is the leftmost one, whatever else stands in the line. -/

namespace LiveRange

/-- A text starts with the name of an attribute, which runs on to the last word character, and with
a colon behind it. The blanks behind the colon are no part of the value. -/
inductive StartsNamed : Text → Text × Text → Prop
  | intro {letters gap space value : Text} (named : letters ≠ [])
      (word : ∀ c ∈ letters, isWordChar c = true)
      (longest : ∀ c ∈ (gap ++ [':']).head?, isWordChar c = false)
      (parted : gap.Blank) (spaced : space.Blank)
      (stripped : ∀ c ∈ value.head?, isBlank c = false) :
      StartsNamed ("DW_AT_".toList ++ letters ++ (gap ++ ':' :: (space ++ value)))
        ("DW_AT_".toList ++ letters, value)

/-- An attribute starts at a position of the text, with no word character before it. -/
structure AttributeAt (text : Text) (position : Nat) (found : Text × Text) : Prop where
  starts : StartsNamed (text.drop position) found
  apart : ∀ previous, position = previous + 1 → ∀ c ∈ text[previous]?, isWordChar c = false

theorem takeWhile_isWordChar {letters : Text} (word : ∀ c ∈ letters, isWordChar c = true)
    {rest : Text} (longest : ∀ c ∈ rest.head?, isWordChar c = false) :
    ("DW_AT_".toList ++ letters ++ rest).takeWhile isWordChar = "DW_AT_".toList ++ letters := by
  have mark : ∀ c ∈ "DW_AT_".toList, isWordChar c = true := by decide
  apply Text.takeWhile_run _ longest
  intro c member
  exact (List.mem_append.mp member).elim (mark c) (word c)

theorem StartsNamed.of_namedValue? {text : Text} {found : Text × Text}
    (read : namedValue? text = some found) : StartsNamed text found := by
  simp only [namedValue?, Option.bind_eq_bind, Option.bind_eq_some_iff] at read
  obtain ⟨tail, marked, rest, spelled, after, colon, result⟩ := read
  obtain ⟨letters, named, word, run⟩ := Text.eq_of_afterRun? spelled
  obtain ⟨gap, parted, split⟩ := Text.exists_eq_append_trimStart rest
  obtain ⟨space, spaced, behind⟩ := Text.exists_eq_append_trimStart after
  have parts : rest = gap ++ ':' :: after := split.trans (by rw [Text.eq_marked_of_after? colon]; rfl)
  have shown : text = "DW_AT_".toList ++ letters ++ (gap ++ ':' :: (space ++ after.trimStart)) := by
    rw [← behind, List.append_assoc, ← parts, ← run]
    exact Text.eq_marked_of_after? marked
  have longest : ∀ c ∈ (gap ++ ':' :: (space ++ after.trimStart)).head?,
      isWordChar c = false := by
    rw [← behind, ← parts]
    exact Text.outside_of_afterRun? spelled
  have stripped := Text.front_trimStart after
  have name : text.takeWhile isWordChar = "DW_AT_".toList ++ letters := by
    rw [shown, takeWhile_isWordChar word longest]
  rw [← Option.some.inj result, name, shown]
  refine .intro named word ?_ parted spaced stripped
  cases gap <;> exact longest

theorem namedValue?_eq_some_iff {text : Text} {found : Text × Text} :
    namedValue? text = some found ↔ StartsNamed text found := by
  constructor
  · exact StartsNamed.of_namedValue?
  · intro starts
    obtain ⟨named, word, longest, parted, spaced, stripped⟩ := starts
    have read := namedValue?_marked named word parted
    rw [List.append_assoc, ← Text.marked, read, Text.trimStart_append_blank spaced,
      Text.trimStart_of_front stripped]
    rfl

/-- An attribute that starts in what follows, where a word may go on. -/
def AttributeIn (afterWord : Bool) (text : Text) (position : Nat) (found : Text × Text) : Prop :=
  (afterWord = true → position ≠ 0) ∧ AttributeAt text position found

section Search

variable {afterWord : Bool} {c : Char} {rest : Text} {found : Text × Text}

theorem not_attributeAt_nil (position : Nat) : ¬ AttributeAt [] position found := by
  intro here
  have starts := here.starts
  rw [List.drop_nil] at starts
  generalize whole : ([] : Text) = text at starts
  cases starts
  cases whole

theorem attributeIn_zero_iff {text : Text} :
    AttributeIn afterWord text 0 found ↔ afterWord = false ∧ StartsNamed text found := by
  constructor
  · rintro ⟨inside, here⟩
    exact ⟨by simpa using inside, here.starts⟩
  · rintro ⟨rfl, starts⟩
    exact ⟨fun after => absurd after Bool.false_ne_true, starts, fun _ zero => absurd zero.symm
      (Nat.succ_ne_zero _)⟩

theorem attributeIn_succ_iff {position : Nat} :
    AttributeIn afterWord (c :: rest) (position + 1) found ↔
      AttributeIn (isWordChar c) rest position found := by
  constructor
  · rintro ⟨_, starts, apart⟩
    refine ⟨?_, starts, ?_⟩
    · rintro word rfl
      have other := apart 0 rfl c rfl
      rw [word] at other
      cases other
    · rintro previous rfl d before
      exact apart (previous + 1) rfl d before
  · rintro ⟨inside, starts, apart⟩
    refine ⟨fun _ => Nat.succ_ne_zero position, starts, ?_⟩
    intro previous same d before
    cases Nat.succ.inj same
    cases position with
    | zero =>
        cases before
        simpa using inside
    | succ previous => exact apart previous rfl d before

theorem firstNamedValue?_eq_some_iff {text : Text} :
    firstNamedValue? afterWord text = some found ↔
      ∃ position, FirstTold (AttributeIn afterWord text) position found := by
  -- On the text: an attribute at its start is the first, and else the first one of what follows.
  induction text generalizing afterWord with
  | nil =>
      constructor
      · intro read
        cases read
      · rintro ⟨position, told, _⟩
        exact absurd told.2 (not_attributeAt_nil position)
  | cons c rest ih =>
      have shifted : (fun position => AttributeIn afterWord (c :: rest) (position + 1)) =
          AttributeIn (isWordChar c) rest := by
        funext position other
        exact propext attributeIn_succ_iff
      rw [FirstTold.exists_iff_zero_or_succ, shifted, ← ih, firstNamedValue?]
      simp only [attributeIn_zero_iff, ← namedValue?_eq_some_iff]
      cases afterWord <;> cases namedValue? (c :: rest) <;> simp

end Search

theorem firstNamedValue?_eq_some_iff_firstTold {line : Text} {found : Text × Text} :
    firstNamedValue? false line = some found ↔
      ∃ position, FirstTold (AttributeAt line) position found := by
  have plain : AttributeIn false line = AttributeAt line := by
    funext position other
    exact propext ⟨And.right, fun here => ⟨nofun, here⟩⟩
  rw [firstNamedValue?_eq_some_iff, plain]

namespace Attribute

theorem ofLine?_eq_some_iff_firstTold {line value : Text} {kind : Attribute} :
    ofLine? line = some (kind, value) ↔
      ∃ position, FirstTold (AttributeAt line) position (kind.name.toList, value) := by
  simp only [ofLine?_eq_some_iff, ofName?_eq_some_iff, ← firstNamedValue?_eq_some_iff_firstTold,
    exists_eq_right']

theorem ofLine?_eq_none_iff_firstTold {line : Text} :
    ofLine? line = none ↔ ∀ position name value,
      FirstTold (AttributeAt line) position (name, value) →
        ∀ kind : Attribute, kind.name.toList ≠ name := by
  rw [Option.eq_none_iff_forall_ne_some]
  constructor
  · rintro unread position _ value first kind rfl
    exact unread _ (ofLine?_eq_some_iff_firstTold.mpr ⟨position, first⟩)
  · rintro other ⟨kind, value⟩ read
    obtain ⟨position, first⟩ := ofLine?_eq_some_iff_firstTold.mp read
    exact other position _ value first kind rfl

/-- The leftmost attribute decides: a line has this one if it is one of those that count, and
otherwise none at all. -/
theorem ofLine?_leftmost (line : Text) :
    (∀ kind value, ofLine? line = some (kind, value) ↔
        ∃ position, FirstTold (AttributeAt line) position (kind.name.toList, value)) ∧
      (ofLine? line = none ↔ ∀ position name value,
        FirstTold (AttributeAt line) position (name, value) →
          ∀ kind : Attribute, kind.name.toList ≠ name) :=
  ⟨fun _ _ => ofLine?_eq_some_iff_firstTold, ofLine?_eq_none_iff_firstTold⟩

/-- A name goes on through a second mark, and hides the attribute to its right. -/
example : ofLine? "<2e> DW_AT_DW_AT_location: 1 DW_AT_location: 2".toList = none := by
  decide +kernel

end Attribute

end LiveRange
