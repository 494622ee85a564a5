import LiveRange.Text.Blank
import Mathlib.Data.List.TakeWhile

/-! Words, fields and trimming of texts that are put together from words and blanks. -/

namespace LiveRange.Text

def Blank (text : Text) : Prop := ∀ c ∈ text, isBlank c = true

def IsWord (text : Text) : Prop := text ≠ [] ∧ ∀ c ∈ text, isBlank c = false

/-- Neither empty nor with a blank at one of its ends. -/
structure IsTrimmed (text : Text) : Prop where
  nonempty : text ≠ []
  front : ∀ c ∈ text.head?, isBlank c = false
  back : ∀ c ∈ text.getLast?, isBlank c = false

section Decidable

variable {property : Char → Prop} [DecidablePred property]

/-- Only the characters of the text are tried, not all that there are. -/
instance (text : Text) : Decidable (∀ c ∈ text, property c) := List.decidableBAll property text

instance (text : Text) : Decidable (∃ c ∈ text, property c) := List.decidableBEx property text

instance (end? : Option Char) : Decidable (∀ c ∈ end?, property c) :=
  Option.decidableForallMem end?

instance (text : Text) : Decidable text.Blank :=
  inferInstanceAs (Decidable (∀ c ∈ text, isBlank c = true))

instance (text : Text) : Decidable text.IsWord :=
  inferInstanceAs (Decidable (text ≠ [] ∧ ∀ c ∈ text, isBlank c = false))

instance (text : Text) : Decidable text.IsTrimmed :=
  decidable_of_iff (text ≠ [] ∧ (∀ c ∈ text.head?, isBlank c = false) ∧
      ∀ c ∈ text.getLast?, isBlank c = false)
    ⟨fun ⟨nonempty, front, back⟩ => ⟨nonempty, front, back⟩,
      fun trimmed => ⟨trimmed.nonempty, trimmed.front, trimmed.back⟩⟩

end Decidable

theorem takeWhile_run {inRun : Char → Bool} {run rest : Text} (inside : ∀ c ∈ run, inRun c = true)
    (boundary : ∀ c ∈ rest.head?, inRun c = false) : (run ++ rest).takeWhile inRun = run := by
  have stops : rest.takeWhile inRun = [] := by
    cases rest with
    | nil => rfl
    | cons c rest => simp [boundary c rfl]
  rw [List.takeWhile_append_of_pos inside, stops, List.append_nil]

theorem dropWhile_run {inRun : Char → Bool} {run rest : Text} (inside : ∀ c ∈ run, inRun c = true)
    (boundary : ∀ c ∈ rest.head?, inRun c = false) : (run ++ rest).dropWhile inRun = rest := by
  rw [List.dropWhile_append_of_pos inside]
  cases rest with
  | nil => rfl
  | cons c rest => simp [boundary c rfl]

/-- What follows a run starts with a character outside of it. -/
theorem outside_of_dropWhile (inRun : Char → Bool) (text : Text) :
    ∀ c ∈ (text.dropWhile inRun).head?, inRun c = false := by
  intro c first
  have stopped := List.head?_dropWhile_not inRun text
  rw [Option.mem_def.mp first] at stopped
  exact stopped

theorem front_trimStart (text : Text) : ∀ c ∈ text.trimStart.head?, isBlank c = false :=
  outside_of_dropWhile isBlank text

theorem blank_of_dropWhile (text : Text) :
    ∀ c ∈ (text.dropWhile (!isBlank ·)).head?, isBlank c = true := by
  intro c first
  simpa using outside_of_dropWhile (!isBlank ·) text c first

theorem blank_replicate (count : Nat) : Blank (List.replicate count ' ') := by
  intro c member
  rw [List.eq_of_mem_replicate member]
  rfl

theorem IsWord.isTrimmed {word : Text} (solid : IsWord word) : IsTrimmed word where
  nonempty := solid.1
  front := fun c first => solid.2 c (List.mem_of_mem_head? first)
  back := fun c last => solid.2 c (List.mem_of_mem_getLast? last)

theorem IsTrimmed.back_append {text : Text} (trimmed : IsTrimmed text) (front : Text) :
    ∀ c ∈ (front ++ text).getLast?, isBlank c = false := by
  intro c final
  rw [List.getLast?_append] at final
  cases ending : text.getLast? with
  | none => exact absurd (List.getLast?_eq_none_iff.mp ending) trimmed.nonempty
  | some d =>
      rw [ending] at final
      exact trimmed.back c (ending ▸ final)

theorem IsTrimmed.append {left right : Text} (first : IsTrimmed left) (last : IsTrimmed right)
    (middle : Text) : IsTrimmed (left ++ middle ++ right) where
  nonempty := by simp [first.nonempty]
  front := by
    intro c head
    obtain ⟨d, rest, rfl⟩ := List.exists_cons_of_ne_nil first.nonempty
    exact first.front c head
  back := last.back_append (left ++ middle)

@[simp] theorem trimStart_cons_blank {c : Char} (blank : isBlank c = true) (text : Text) :
    trimStart (c :: text) = trimStart text := by
  simp [trimStart, blank]

theorem trimStart_append_blank {blanks : Text} (blank : Blank blanks) (text : Text) :
    trimStart (blanks ++ text) = trimStart text :=
  List.dropWhile_append_of_pos blank

theorem trimStart_of_front {text : Text} (front : ∀ c ∈ text.head?, isBlank c = false) :
    trimStart text = text := by
  cases text with
  | nil => rfl
  | cons c rest =>
      have solid := front c rfl
      simp [trimStart, solid]

theorem trimEnd_of_back {text : Text} (back : ∀ c ∈ text.getLast?, isBlank c = false) :
    trimEnd text = text := by
  have front : ∀ c ∈ text.reverse.head?, isBlank c = false := by
    intro c first
    rw [List.head?_reverse] at first
    exact back c first
  have kept := trimStart_of_front front
  rw [trimStart] at kept
  rw [trimEnd, kept, List.reverse_reverse]

section Word

variable {word : Text} (solid : IsWord word)

include solid

theorem IsWord.trimStart_append (behind : Text) : trimStart (word ++ behind) = word ++ behind := by
  obtain ⟨first, others, rfl⟩ := List.exists_cons_of_ne_nil solid.1
  apply trimStart_of_front
  intro c head
  rw [List.cons_append, List.head?_cons, Option.mem_some_iff] at head
  exact head ▸ solid.2 first List.mem_cons_self

theorem IsWord.not_isBlank : ∀ c ∈ word, (!isBlank c) = true := by
  intro c member
  rw [solid.2 c member]
  rfl

variable {behind : Text} (boundary : ∀ c ∈ behind.head?, isBlank c = true)

include boundary

theorem IsWord.takeWhile_append : (word ++ behind).takeWhile (!isBlank ·) = word :=
  takeWhile_run solid.not_isBlank fun c head => by rw [boundary c head]; rfl

theorem IsWord.dropWhile_append : (word ++ behind).dropWhile (!isBlank ·) = behind :=
  dropWhile_run solid.not_isBlank fun c head => by rw [boundary c head]; rfl

end Word

theorem IsTrimmed.trim {text : Text} (trimmed : IsTrimmed text) : text.trim = text := by
  rw [Text.trim, trimStart_of_front trimmed.front, trimEnd_of_back trimmed.back]

@[simp] theorem words_nil : words [] = [] := by
  simp [words, List.splitOnP_nil]

theorem words_append_cons {c : Char} (blank : isBlank c = true) (left right : Text) :
    words (left ++ c :: right) = words left ++ words right := by
  rw [words, List.splitOnP_append_cons left right blank, List.filter_append]
  rfl

theorem IsWord.words {word : Text} (solid : IsWord word) : Text.words word = [word] := by
  rw [Text.words, List.splitOnP_eq_singleton solid.2]
  simp [solid.1]

theorem words_cons_blank {c : Char} (blank : isBlank c = true) (text : Text) :
    words (c :: text) = words text := by
  simpa using words_append_cons blank [] text

theorem words_append_blank {blanks : Text} (blank : Blank blanks) (text : Text) :
    words (blanks ++ text) = words text := by
  induction blanks with
  | nil => rfl
  | cons c rest ih =>
      have ⟨first, others⟩ := List.forall_mem_cons.mp blank
      rw [List.cons_append, words_cons_blank first, ih others]

theorem IsWord.words_cons {word : Text} (solid : IsWord word) {c : Char}
    (blank : isBlank c = true) (rest : Text) :
    Text.words (word ++ c :: rest) = word :: Text.words rest := by
  rw [words_append_cons blank, solid.words]
  rfl

theorem IsWord.words_append {word behind : Text} (solid : IsWord word)
    (boundary : ∀ c ∈ behind.head?, isBlank c = true) :
    Text.words (word ++ behind) = word :: Text.words behind := by
  cases behind with
  | nil => rw [List.append_nil, solid.words, words_nil]
  | cons c rest =>
      have blank := boundary c rfl
      rw [solid.words_cons blank, words_cons_blank blank]

theorem words_of_blank {text : Text} (blank : Blank text) : words text = [] := by
  have nothing := words_append_blank blank []
  rwa [List.append_nil, words_nil] at nothing

theorem words_append_blank_right {blanks : Text} (blank : Blank blanks) (text : Text) :
    words (text ++ blanks) = words text := by
  cases blanks with
  | nil => rw [List.append_nil]
  | cons c rest =>
      have ⟨first, others⟩ := List.forall_mem_cons.mp blank
      rw [words_append_cons first, words_of_blank others, List.append_nil]

theorem isWord_takeWhile {c : Char} (solid : isBlank c = false) (rest : Text) :
    IsWord ((c :: rest).takeWhile (!isBlank ·)) := by
  constructor
  · simp [solid]
  · intro d member
    simpa using List.mem_takeWhile_imp member

theorem exists_first_word {c : Char} (solid : isBlank c = false) (rest : Text) :
    ∃ word behind, c :: rest = word ++ behind ∧ IsWord word ∧
      ∀ d ∈ behind.head?, isBlank d = true :=
  ⟨_, _, (List.takeWhile_append_dropWhile (p := (!isBlank ·)) (l := c :: rest)).symm,
    isWord_takeWhile solid rest, blank_of_dropWhile (c :: rest)⟩

/-- A text that starts with no blank starts with its first word. -/
theorem words_of_solid {c : Char} (solid : isBlank c = false) (rest : Text) :
    words (c :: rest) = (c :: rest).takeWhile (!isBlank ·) ::
      words ((c :: rest).dropWhile (!isBlank ·)) := by
  have word := isWord_takeWhile solid rest
  conv => lhs; rw [← List.takeWhile_append_dropWhile (p := (!isBlank ·)) (l := c :: rest)]
  exact word.words_append (blank_of_dropWhile (c :: rest))

theorem words_cons_solid {c : Char} (solid : isBlank c = false) (rest : Text) :
    ∃ word others, words (c :: rest) = (c :: word) :: others ∧ IsWord (c :: word) := by
  have word := isWord_takeWhile solid rest
  have first := words_of_solid solid rest
  rw [List.takeWhile_cons_of_pos (by simp [solid])] at word first
  exact ⟨_, _, first, word⟩

/-- A text is what is left of it between the blanks at its ends. -/
theorem exists_eq_append_trim (text : Text) :
    ∃ front back, Blank front ∧ Blank back ∧ text = front ++ (text.trim ++ back) := by
  let behind := text.trimStart.reverse.takeWhile isBlank
  have front : Blank (text.takeWhile isBlank) := fun _ member => List.mem_takeWhile_imp member
  have back : Blank behind.reverse := fun _ member =>
    List.mem_takeWhile_imp (List.mem_reverse.mp member)
  refine ⟨text.takeWhile isBlank, behind.reverse, front, back, ?_⟩
  have whole : text.trim ++ behind.reverse = text.trimStart := by
    rw [trim, trimEnd, ← List.reverse_append, List.takeWhile_append_dropWhile,
      List.reverse_reverse]
  rw [whole, trimStart, List.takeWhile_append_dropWhile]

theorem words_trim (text : Text) : words text.trim = words text := by
  obtain ⟨front, back, blankFront, blankBack, whole⟩ := exists_eq_append_trim text
  conv => rhs; rw [whole]
  rw [words_append_blank blankFront, words_append_blank_right blankBack]

theorem exists_eq_append_trimStart (text : Text) :
    ∃ front, Blank front ∧ text = front ++ text.trimStart :=
  ⟨text.takeWhile isBlank, fun _ member => List.mem_takeWhile_imp member,
    List.takeWhile_append_dropWhile.symm⟩

theorem words_trimStart (text : Text) : words text.trimStart = words text := by
  obtain ⟨front, blank, whole⟩ := exists_eq_append_trimStart text
  conv => rhs; rw [whole]
  rw [words_append_blank blank]

/-- What follows the first word. -/
def behindFirst (text : Text) : Text := text.trimStart.dropWhile (!isBlank ·)

/-- A text of more than blanks is its first word and what follows it. -/
theorem words_of_not_blank {text : Text} (solid : ¬ Blank text) :
    words text = text.trimStart.takeWhile (!isBlank ·) :: words text.behindFirst := by
  cases opening : text.trimStart with
  | nil => exact absurd (List.dropWhile_eq_nil_iff.mp opening) solid
  | cons c rest =>
      have solid := front_trimStart text c (by rw [opening]; rfl)
      rw [← words_trimStart, behindFirst, opening, words_of_solid solid]

theorem words_eq_nil_iff {text : Text} : words text = [] ↔ Blank text := by
  constructor
  · intro nothing
    by_contra solid
    rw [words_of_not_blank solid] at nothing
    cases nothing
  · exact words_of_blank

theorem not_blank_of_words {text word : Text} {others : List Text}
    (words : text.words = word :: others) : ¬ Blank text := by
  rw [← words_eq_nil_iff, words]
  exact List.cons_ne_nil word others

/-- A text with a first word is that word and what follows it, the margin aside. -/
theorem split_of_words {text word : Text} {others : List Text}
    (words : text.words = word :: others) :
    text.trimStart = word ++ text.behindFirst ∧ text.behindFirst.words = others := by
  have whole := List.takeWhile_append_dropWhile (p := (!isBlank ·)) (l := text.trimStart)
  rw [words_of_not_blank (not_blank_of_words words), List.cons.injEq] at words
  obtain ⟨first, later⟩ := words
  rw [first] at whole
  exact ⟨whole.symm, later⟩

theorem trimStart_eq_nil_iff {text : Text} : trimStart text = [] ↔ Blank text :=
  List.dropWhile_eq_nil_iff

theorem trim_eq_nil_iff {text : Text} : trim text = [] ↔ Blank text := by
  constructor
  · intro nothing
    rw [← words_eq_nil_iff, ← words_trim, nothing, words_nil]
  · intro blank
    rw [trim, trimStart_eq_nil_iff.mpr blank]
    rfl

theorem fields_cons_blank (limit : Nat) {c : Char} (blank : isBlank c = true) (row : Text) :
    fields limit (c :: row) = fields limit row := by
  have same : trim (c :: row) = trim row := by
    rw [trim, trim, trimStart_cons_blank blank]
  match limit with
  | 0 | 1 =>
      change (if trim (c :: row) = [] then [] else [trim (c :: row)]) =
        if trim row = [] then [] else [trim row]
      rw [same]
  | limit + 2 => rw [fields, fields, trimStart_cons_blank blank]

theorem fields_append_blank (limit : Nat) {blanks : Text} (blank : Blank blanks) (row : Text) :
    fields limit (blanks ++ row) = fields limit row := by
  induction blanks with
  | nil => rfl
  | cons c rest ih =>
      have ⟨first, others⟩ := List.forall_mem_cons.mp blank
      rw [List.cons_append, fields_cons_blank limit first, ih others]

theorem length_fields_le (limit : Nat) (row : Text) :
    (fields (limit + 1) row).length ≤ limit + 1 := by
  induction limit generalizing row with
  | zero =>
      rw [fields]
      split
      · exact Nat.zero_le _
      · exact le_refl _
      · simp
  | succ limit ih =>
      rw [fields]
      split
      · exact Nat.zero_le _
      · exact Nat.succ_le_succ (ih _)

/-- The last field is what remains of the row. -/
theorem IsTrimmed.fields_one {text : Text} (trimmed : IsTrimmed text) :
    fields 1 text = [text] := by
  simp [fields, trimmed.trim, trimmed.nonempty]

/-- The first field of a row that starts with a word. -/
theorem IsWord.fields_append {word : Text} (solid : IsWord word) (limit : Nat) {behind : Text}
    (boundary : ∀ c ∈ behind.head?, isBlank c = true) :
    fields (limit + 2) (word ++ behind) = word :: fields (limit + 1) behind := by
  obtain ⟨first, others, rfl⟩ := List.exists_cons_of_ne_nil solid.1
  have kept := solid.trimStart_append behind
  have taken := solid.takeWhile_append boundary
  have dropped := solid.dropWhile_append boundary
  rw [List.cons_append] at kept taken dropped
  rw [List.cons_append, fields, kept]
  simp only
  rw [taken, dropped]

theorem IsWord.fields_cons {word : Text} (solid : IsWord word) (limit : Nat) {c : Char}
    (blank : isBlank c = true) (rest : Text) :
    fields (limit + 2) (word ++ c :: rest) = word :: fields (limit + 1) rest := by
  rw [solid.fields_append limit (by simp [blank]), fields_cons_blank _ blank]

end LiveRange.Text
