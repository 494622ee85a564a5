import LiveRange.Proofs.Text.Marks

/-! A word that stands in a row between blanks: which word it is, and that no mark whose words have
other characters reaches into it. -/

namespace LiveRange.Text

/-- What stands between these parts of a row is apart from them. -/
structure Apart (front back : Text) : Prop where
  front : ∀ c ∈ front.getLast?, isBlank c = true
  back : ∀ c ∈ back.head?, isBlank c = true

/-- Every word of the mark has a character outside the class. -/
structure Foreign (inside : Char → Bool) (mark : String) : Prop where
  trimmed : IsTrimmed mark.toList
  outside : ∀ word ∈ words mark.toList, ∃ c ∈ word, inside c = false

instance (front back : Text) : Decidable (Apart front back) :=
  decidable_of_iff ((∀ c ∈ front.getLast?, isBlank c = true) ∧ ∀ c ∈ back.head?, isBlank c = true)
    ⟨fun ⟨front, back⟩ => ⟨front, back⟩, fun apart => ⟨apart.front, apart.back⟩⟩

instance (inside : Char → Bool) (mark : String) : Decidable (Foreign inside mark) :=
  decidable_of_iff (IsTrimmed mark.toList ∧
      ∀ word ∈ words mark.toList, ∃ c ∈ word, inside c = false)
    ⟨fun ⟨trimmed, outside⟩ => ⟨trimmed, outside⟩,
      fun foreign => ⟨foreign.trimmed, foreign.outside⟩⟩

theorem Apart.of_suffix {front behind back : Text} (apart : Apart front back)
    (suffix : behind <:+ front) : Apart behind back where
  front := by
    intro c last
    obtain ⟨before, rfl⟩ := suffix
    apply apart.front c
    rw [List.getLast?_append, Option.mem_def.mp last]
    rfl
  back := apart.back

theorem behindFirst_word {blanks word : Text} (blank : Blank blanks) (solid : IsWord word)
    {behind : Text} (boundary : ∀ c ∈ behind.head?, isBlank c = true) :
    behindFirst (blanks ++ (word ++ behind)) = behind := by
  rw [behindFirst, trimStart_append_blank blank, solid.trimStart_append,
    solid.dropWhile_append boundary]

/-- Only blanks in front of a word are trimmed. -/
theorem trimStart_append_word {word : Text} (solid : IsWord word) (front back : Text) :
    trimStart (front ++ (word ++ back)) = trimStart front ++ (word ++ back) := by
  have kept := solid.trimStart_append back
  rw [trimStart, List.dropWhile_append]
  split_ifs with blank
  · rw [← trimStart, kept, trimStart, List.isEmpty_iff.mp blank, List.nil_append]
  · rfl

section Row

variable {front back : Text} (apart : Apart front back)

include apart

/-- The first word of the front part ends inside it, for the last character is a blank. -/
theorem Apart.exists_first (solid : ¬ front.Blank) :
    ∃ (blanks word : Text) (c : Char) (rest : Text), Blank blanks ∧ IsWord word ∧
      isBlank c = true ∧ front = blanks ++ (word ++ c :: rest) := by
  have whole := List.takeWhile_append_dropWhile (p := isBlank) (l := front)
  cases opening : front.dropWhile isBlank with
  | nil => exact absurd (List.dropWhile_eq_nil_iff.mp opening) solid
  | cons first others =>
      have begins := outside_of_dropWhile isBlank front first (by rw [opening]; rfl)
      obtain ⟨word, behind, split, solidWord, boundary⟩ := exists_first_word begins others
      rw [opening, split] at whole
      cases behind with
      | nil =>
          rw [List.append_nil] at whole
          have ended : Apart word back := apart.of_suffix ⟨_, whole⟩
          have blank := ended.front _ (List.getLast?_eq_some_getLast solidWord.1)
          rw [solidWord.2 _ (List.getLast_mem solidWord.1)] at blank
          cases blank
      | cons c rest =>
          exact ⟨_, word, c, rest, fun _ => List.mem_takeWhile_imp, solidWord, boundary c rfl,
            whole.symm⟩

theorem Apart.words_append (text : Text) : words (front ++ text) = words front ++ words text := by
  induction front using List.reverseRecOn with
  | nil => rw [List.nil_append, words_nil, List.nil_append]
  | append_singleton front c _ =>
      have blank : isBlank c = true := apart.front c (by simp)
      rw [List.append_assoc, List.singleton_append, words_append_cons blank,
        words_append_cons blank, words_nil, List.append_nil]

theorem Apart.words_word {word : Text} (solid : word.IsWord) :
    words (front ++ (word ++ back)) = words front ++ word :: words back := by
  rw [apart.words_append, solid.words_append apart.back]

theorem Apart.not_blank {word : Text} (solid : word.IsWord) :
    ¬ Blank (front ++ (word ++ back)) := by
  rw [← words_eq_nil_iff, apart.words_word solid]
  exact List.append_ne_nil_of_right_ne_nil _ (List.cons_ne_nil _ _)

theorem Apart.fields_append {word : Text} (solid : word.IsWord) (limit : Nat) :
    fields (front.words.length + (limit + 2)) (front ++ (word ++ back)) =
      front.words ++ word :: fields (limit + 1) back := by
  -- On the number of words in front: each one takes a field of its own, and what is left behind it
  -- is again apart from the word.
  generalize position : front.words.length = k
  induction k generalizing front with
  | zero =>
      have blank : front.Blank := words_eq_nil_iff.mp (List.length_eq_zero_iff.mp position)
      rw [Nat.zero_add, fields_append_blank _ blank, words_of_blank blank,
        solid.fields_append limit apart.back, List.nil_append]
  | succ k ih =>
      have filled : ¬ front.Blank := by
        rw [← words_eq_nil_iff, ← List.length_eq_zero_iff, position]
        exact Nat.succ_ne_zero k
      obtain ⟨blanks, first, c, rest, blank, solidFirst, blankEnd, whole⟩ :=
        apart.exists_first filled
      have suffix : rest <:+ front := ⟨blanks ++ (first ++ [c]), by simp [whole]⟩
      have words : front.words = first :: rest.words := by
        rw [whole, words_append_blank blank, solidFirst.words_cons blankEnd]
      rw [words, List.length_cons, Nat.succ_inj] at position
      have later := ih (apart.of_suffix suffix) position
      calc fields (k + 1 + (limit + 2)) (front ++ (word ++ back))
          = fields (k + limit + 1 + 2) (first ++ c :: (rest ++ (word ++ back))) := by
            rw [whole, List.append_assoc, fields_append_blank _ blank, List.append_assoc,
              List.cons_append]
            congr 1
            omega
        _ = first :: fields (k + (limit + 2)) (rest ++ (word ++ back)) :=
            solidFirst.fields_cons _ blankEnd _
        _ = front.words ++ word :: fields (limit + 1) back := by
            rw [later, words, List.cons_append]

theorem Apart.behindFirst_append (filled : ¬ front.Blank) (text : Text) :
    (front ++ text).behindFirst = front.behindFirst ++ text := by
  obtain ⟨blanks, first, c, rest, blank, solid, blankEnd, rfl⟩ := apart.exists_first filled
  have boundary (behind : Text) : ∀ d ∈ (c :: behind).head?, isBlank d = true := by
    simp [blankEnd]
  rw [behindFirst_word blank solid (boundary rest), List.append_assoc, List.append_assoc,
    List.cons_append, behindFirst_word blank solid (boundary (rest ++ text))]

end Row

section Mark

variable {inside : Char → Bool} {mark : String} (foreign : Foreign inside mark)

include foreign

/-- The first word of what is left of a mark goes beyond the word or is cut off by its end. -/
theorem Foreign.not_prefix {text word back : Text} (within : ∀ c ∈ word, inside c = true)
    (boundary : ∀ c ∈ back.head?, isBlank c = true)
    (member : text.takeWhile (!isBlank ·) ∈ words mark.toList) : ¬ text <+: word ++ back := by
  intro starts
  obtain ⟨c, first, outside⟩ := foreign.outside _ member
  have solid : ∀ d ∈ text.takeWhile (!isBlank ·), (!isBlank d) = true := fun _ =>
    List.mem_takeWhile_imp
  have reached := (List.takeWhile_prefix (!isBlank ·)).trans starts
  rcases List.prefix_or_prefix_of_prefix reached (List.prefix_append word back) with short | long
  · rw [within c (short.subset first)] at outside
    cases outside
  · obtain ⟨surplus, whole⟩ := long
    cases surplus with
    | nil =>
        rw [List.append_nil] at whole
        rw [within c (whole ▸ first)] at outside
        cases outside
    | cons d surplus =>
        have blank : isBlank d = true := by
          rw [← whole, List.prefix_append_right_inj] at reached
          obtain ⟨others, rfl⟩ := reached
          exact boundary d rfl
        have solidHere := solid d (whole ▸ List.mem_append_right word List.mem_cons_self)
        rw [blank] at solidHere
        cases solidHere

variable {word front back : Text} (solid : word.IsWord)
  (within : ∀ c ∈ word, inside c = true) (apart : Apart front back)

include solid within apart

theorem Foreign.startsWith_append :
    startsWith mark (front ++ (word ++ back)) = startsWith mark front := by
  rw [Bool.eq_iff_iff, startsWith_iff, startsWith_iff]
  constructor
  · intro starts
    rcases List.prefix_or_prefix_of_prefix starts (List.prefix_append front _) with short | long
    · exact short
    · obtain ⟨text, split⟩ := long
      cases text with
      | nil => exact ⟨[], by rw [List.append_nil, ← split, List.append_nil]⟩
      | cons d text =>
          rw [← split, List.prefix_append_right_inj] at starts
          exfalso
          obtain ⟨c, others, rfl⟩ := List.exists_cons_of_ne_nil solid.1
          have same : d = c := (List.cons_prefix_cons.mp starts).1
          have solidFirst : isBlank d = false := same ▸ solid.2 c List.mem_cons_self
          refine foreign.not_prefix within apart.back ?_ starts
          rw [← split, apart.words_append, words_of_solid solidFirst]
          exact List.mem_append_right _ List.mem_cons_self
  · exact List.prefix_append_of_prefix

omit solid within apart in
theorem Foreign.mentions_nil : mentions mark [] = false := by
  obtain ⟨first, others, spelled⟩ := List.exists_cons_of_ne_nil foreign.trimmed.nonempty
  rw [mentions, startsWith, spelled, List.isPrefixOf_cons_nil]

/-- The mark stands in front of the word or behind it. -/
theorem Foreign.mentions_append :
    mentions mark (front ++ (word ++ back)) = (mentions mark front || mentions mark back) := by
  -- First the positions of the mark in the front part, then those in the word: from the latter it
  -- would have to start with a piece of the word, `startsWith_append` with nothing in front.
  induction front with
  | nil =>
      rw [foreign.mentions_nil, Bool.false_or, List.nil_append]
      have solidChars := solid.2
      clear solid
      induction word with
      | nil => rfl
      | cons c word ih =>
          have solidHere : IsWord (c :: word) := ⟨List.cons_ne_nil c word, solidChars⟩
          have here := foreign.startsWith_append solidHere within apart
          have later := ih (fun d member => within d (List.mem_cons_of_mem c member))
            fun d member => solidChars d (List.mem_cons_of_mem c member)
          have nothing : startsWith mark [] = false := foreign.mentions_nil
          rw [nothing, List.nil_append, List.cons_append] at here
          rw [List.cons_append, mentions, here, Bool.false_or, later]
  | cons c front ih =>
      have here := foreign.startsWith_append solid within apart
      rw [List.cons_append] at here
      rw [List.cons_append, mentions, here, ih (apart.of_suffix (List.suffix_cons c front)),
        mentions, Bool.or_assoc]

end Mark

end LiveRange.Text
