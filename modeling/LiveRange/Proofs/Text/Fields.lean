import LiveRange.Proofs.Text.Margins
import LiveRange.Proofs.Text.Standing

/-! The fields of a row by the places of its words. Each field is a word but for the last, which
reaches from the start of a word to the stop of the last word of the row. -/

namespace LiveRange.Text

/-- A piece of a text, from the position of its first character to the one behind its last. -/
structure Span where
  start : Nat
  stop : Nat
  deriving DecidableEq, Repr

namespace Span

def of (span : Span) (text : Text) : Text := (text.take span.stop).drop span.start

def shift (distance : Nat) (span : Span) : Span :=
  { start := distance + span.start, stop := distance + span.stop }

/-- The place of a word behind what stands in front of it. -/
def after (front word : Text) : Span :=
  { start := front.length, stop := front.length + word.length }

/-- From the start of the first piece to the stop of the last. -/
def hull? (spans : List Span) : Option Span :=
  spans.head?.bind fun first => spans.getLast?.map fun last =>
    { start := first.start, stop := last.stop }

/-- The pieces of a row's fields: words, and at most one more piece that all further words share. -/
def ofFields (limit : Nat) (words : List Span) : List Span :=
  words.take limit ++ (hull? (words.drop limit)).toList

theorem of_shift (front text : Text) (span : Span) :
    (span.shift front.length).of (front ++ text) = span.of text := by
  rw [of, of, shift, List.take_length_add_append, List.drop_length_add_append]

theorem shift_after (before front word : Text) :
    (after front word).shift before.length = after (before ++ front) word := by
  rw [shift, after, after, List.length_append, Nat.add_assoc]

theorem take_stop_after (front word back : Text) :
    (front ++ (word ++ back)).take (after front word).stop = front ++ word := by
  rw [after, List.take_length_add_append, List.take_left]

theorem of_after (front word back : Text) :
    (after front word).of (front ++ (word ++ back)) = word := by
  rw [of, take_stop_after, after, List.drop_left]

theorem hull?_cons (first : Span) (others : List Span) :
    hull? (first :: others) = some
      { start := first.start,
        stop := ((first :: others).getLast (List.cons_ne_nil first others)).stop } := by
  rw [hull?, List.head?_cons, Option.bind_some, List.getLast?_eq_some_getLast, Option.map_some]

theorem hull?_shift (distance : Nat) (spans : List Span) :
    hull? (spans.map (shift distance)) = (hull? spans).map (shift distance) := by
  rw [hull?, hull?, List.head?_map, List.getLast?_map]
  cases spans.head? <;> cases spans.getLast? <;> rfl

theorem ofFields_shift (limit distance : Nat) (words : List Span) :
    ofFields limit (words.map (shift distance)) = (ofFields limit words).map (shift distance) := by
  rw [ofFields, ofFields, ← List.map_take, ← List.map_drop, hull?_shift, List.map_append,
    Option.toList_map]

theorem ofFields_cons (limit : Nat) (first : Span) (words : List Span) :
    ofFields (limit + 1) (first :: words) = first :: ofFields limit words := rfl

theorem map_of_shift (front text : Text) (spans : List Span) :
    (spans.map (shift front.length)).map (·.of (front ++ text)) = spans.map (·.of text) := by
  rw [List.map_map]
  exact List.map_congr_left fun span _ => of_shift front text span

/-- A single piece is its own hull. -/
theorem toList_hull? {spans : List Span} (short : spans.length ≤ 1) :
    (hull? spans).toList = spans := by
  match spans, short with
  | [], _ | [_], _ => rfl

theorem length_hull? (spans : List Span) : (hull? spans).toList.length = min 1 spans.length := by
  cases spans with
  | nil => rfl
  | cons first others =>
      rw [hull?_cons]
      simp

theorem length_ofFields (limit : Nat) (words : List Span) :
    (ofFields limit words).length = min (limit + 1) words.length := by
  rw [ofFields, List.length_append, List.length_take, length_hull?, List.length_drop]
  omega

theorem getElem?_ofFields_of_lt {limit i : Nat} (before : i < limit) (words : List Span) :
    (ofFields limit words)[i]? = words[i]? := by
  by_cases short : i < words.length
  · rw [ofFields, List.getElem?_append_left (by rw [List.length_take]; omega),
      List.getElem?_take_of_lt before]
  · have size := length_ofFields limit words
    rw [List.getElem?_eq_none (by omega), List.getElem?_eq_none (by omega)]

theorem getElem?_ofFields_self {limit : Nat} {words : List Span} {last : Span}
    (final : last ∈ words.getLast?) :
    (ofFields limit words)[limit]? =
      words[limit]?.map fun span => { start := span.start, stop := last.stop } := by
  by_cases short : limit < words.length
  · have here : hull? (words.drop limit) =
        words[limit]?.map fun span => { start := span.start, stop := last.stop } := by
      rw [hull?, List.head?_drop, List.getLast?_drop, if_neg (by omega), final,
        List.getElem?_eq_getElem short]
      rfl
    have size := List.length_take_of_le short.le
    rw [ofFields, List.getElem?_append_right (by omega), size, Nat.sub_self, here,
      List.getElem?_eq_getElem short]
    rfl
  · have size := length_ofFields limit words
    rw [List.getElem?_eq_none (by omega), List.getElem?_eq_none (by omega), Option.map_none]

theorem ofFields_of_length_le {limit : Nat} {words : List Span}
    (few : words.length ≤ limit + 1) : ofFields limit words = words := by
  rw [ofFields, toList_hull? (by rw [List.length_drop]; omega), List.take_append_drop]

end Span

/-- A word stands here: no blank is in it, and no character but a blank is next to it. -/
structure WordAt (text : Text) (span : Span) : Prop where
  solid : IsWord (span.of text)
  inside : span.stop ≤ text.length
  apart : Apart (text.take span.start) (text.drop span.stop)

/-- The places of all words of a text, in their order. -/
structure AllWords (text : Text) (spans : List Span) : Prop where
  each : ∀ span, span ∈ spans ↔ WordAt text span
  ordered : spans.Pairwise (·.stop < ·.start)

theorem wordAt_iff_append {text : Text} {span : Span} : WordAt text span ↔
    ∃ front word back : Text, text = front ++ (word ++ back) ∧ IsWord word ∧ Apart front back ∧
      span = .after front word := by
  constructor
  · rintro ⟨solid, inside, apart⟩
    have length : (span.of text).length = span.stop - span.start := by
      rw [Span.of, List.length_drop, List.length_take_of_le inside]
    have filled := List.length_pos_iff.mpr solid.1
    have before : (text.take span.start).length = span.start :=
      List.length_take_of_le (by omega)
    have front : (text.take span.stop).take span.start = text.take span.start := by
      rw [List.take_take, Nat.min_eq_left (by omega)]
    refine ⟨text.take span.start, span.of text, text.drop span.stop, ?_, solid, apart, ?_⟩
    · rw [← front, ← List.append_assoc, Span.of, List.take_append_drop, List.take_append_drop]
    · rw [Span.after, before, length, Nat.add_sub_cancel' (by omega)]
  · rintro ⟨front, word, back, rfl, solid, apart, rfl⟩
    refine ⟨?_, ?_, ?_⟩
    · rwa [Span.of_after]
    · simp [Span.after]
    · simpa [Span.after] using apart

theorem wordAt_nil (span : Span) : ¬ WordAt [] span := by
  rintro ⟨solid, _⟩
  simp [Span.of, IsWord] at solid

/-- A word does not start where a blank stands. -/
theorem IsWord.not_boundary {word : Text} (solid : IsWord word) {back : Text}
    (boundary : ∀ c ∈ (word ++ back).head?, isBlank c = true) : False := by
  obtain ⟨first, others, rfl⟩ := List.exists_cons_of_ne_nil solid.1
  have blank := boundary first rfl
  rw [solid.2 first List.mem_cons_self] at blank
  cases blank

theorem WordAt.start_pos {text : Text} {span : Span} (here : WordAt text span)
    (boundary : ∀ c ∈ text.head?, isBlank c = true) : 0 < span.start := by
  obtain ⟨front, word, back, rfl, solid, _, rfl⟩ := wordAt_iff_append.mp here
  cases front with
  | nil => exact (solid.not_boundary boundary).elim
  | cons c front => exact Nat.succ_pos _

/-- A word stays one behind more text, unless the two grow together. -/
theorem WordAt.shift {text : Text} {span : Span} (here : WordAt text span) {front : Text}
    (apart : 0 < span.start ∨ ∀ c ∈ front.getLast?, isBlank c = true) :
    WordAt (front ++ text) (span.shift front.length) := by
  obtain ⟨before, word, back, rfl, solid, inside, rfl⟩ := wordAt_iff_append.mp here
  refine wordAt_iff_append.mpr ⟨front ++ before, word, back, ?_, solid, ⟨?_, inside.back⟩, ?_⟩
  · rw [List.append_assoc]
  · intro c last
    cases ending : before.getLast? with
    | none =>
        cases List.getLast?_eq_none_iff.mp ending
        rcases apart with filled | ends
        · cases filled
        · exact ends c (by rwa [List.append_nil] at last)
    | some d =>
        rw [List.getLast?_append, ending, Option.some_or] at last
        exact inside.front c (ending.trans last)
  · exact Span.shift_after front before word

theorem WordAt.of_append {front text : Text} {span : Span} (here : WordAt (front ++ text) span)
    (behind : front.length ≤ span.start) :
    ∃ later, WordAt text later ∧ later.shift front.length = span := by
  obtain ⟨before, word, back, whole, solid, apart, rfl⟩ := wordAt_iff_append.mp here
  have inside : front <+: before := by
    apply List.prefix_of_prefix_length_le (List.prefix_append front text) _ behind
    exact ⟨word ++ back, whole.symm⟩
  obtain ⟨between, rfl⟩ := inside
  rw [List.append_assoc, List.append_cancel_left_eq] at whole
  refine ⟨.after between word, wordAt_iff_append.mpr ⟨between, word, back, whole, solid, ?_, rfl⟩,
    Span.shift_after front between word⟩
  exact apart.of_suffix (List.suffix_append front between)

theorem wordAt_cons_blank_iff {c : Char} (blank : isBlank c = true) {text : Text} {span : Span} :
    WordAt (c :: text) span ↔ ∃ later, WordAt text later ∧ later.shift 1 = span := by
  rw [← List.singleton_append]
  constructor
  · intro here
    exact here.of_append (here.start_pos (by simp [blank]))
  · rintro ⟨later, here, rfl⟩
    exact here.shift (Or.inr (by simp [blank]))

theorem wordAt_word_append_iff {word behind : Text} (solid : IsWord word)
    (boundary : ∀ c ∈ behind.head?, isBlank c = true) {span : Span} :
    WordAt (word ++ behind) span ↔
      span = .after [] word ∨ ∃ later, WordAt behind later ∧ later.shift word.length = span := by
  constructor
  · intro here
    obtain ⟨front, other, back, whole, solidOther, apart, rfl⟩ := wordAt_iff_append.mp here
    cases ending : front.getLast? with
    | none =>
        -- Both are the word that the row starts with.
        cases List.getLast?_eq_none_iff.mp ending
        have same := solid.takeWhile_append boundary
        rw [whole, List.nil_append, solidOther.takeWhile_append apart.back] at same
        rw [same]
        exact Or.inl rfl
    | some c =>
        have blank := apart.front c ending
        refine Or.inr (here.of_append ?_)
        -- The first word has no blank, so a word behind a blank starts behind it.
        by_contra short
        have inside : front <+: word := by
          apply List.prefix_of_prefix_length_le _ (List.prefix_append word behind)
            (Nat.lt_of_not_le short).le
          exact ⟨other ++ back, whole.symm⟩
        have solidHere := solid.2 c (inside.subset (List.mem_of_getLast? ending))
        rw [blank] at solidHere
        cases solidHere
  · rintro (rfl | ⟨later, here, rfl⟩)
    · exact wordAt_iff_append.mpr ⟨[], word, behind, rfl, solid, ⟨nofun, boundary⟩, rfl⟩
    · exact here.shift (Or.inl (here.start_pos boundary))

/-- The words of a text as they are found from its front on. -/
inductive Laid : Text → List Span → Prop
  | nil : Laid [] []
  | blank {c : Char} {text : Text} {spans : List Span} (blank : isBlank c = true)
      (later : Laid text spans) : Laid (c :: text) (spans.map (Span.shift 1))
  | word {word behind : Text} {spans : List Span} (solid : IsWord word)
      (boundary : ∀ c ∈ behind.head?, isBlank c = true) (later : Laid behind spans) :
      Laid (word ++ behind) (.after [] word :: spans.map (Span.shift word.length))

theorem exists_laid (text : Text) : ∃ spans, Laid text spans := by
  induction length : text.length using Nat.strongRecOn generalizing text with
  | ind count ih =>
      cases text with
      | nil => exact ⟨[], .nil⟩
      | cons c rest =>
          subst length
          cases blank : isBlank c with
          | true =>
              obtain ⟨spans, later⟩ := ih rest.length (Nat.lt_succ_self _) rest rfl
              exact ⟨_, .blank blank later⟩
          | false =>
              obtain ⟨word, behind, whole, solid, boundary⟩ := exists_first_word blank rest
              rw [whole] at ih ⊢
              have filled := List.length_pos_iff.mpr solid.1
              have shorter : behind.length < (word ++ behind).length := by
                rw [List.length_append]
                omega
              obtain ⟨spans, later⟩ := ih behind.length shorter behind rfl
              exact ⟨_, .word solid boundary later⟩

theorem fields_one_of_not_blank {row : Text} (filled : ¬ Blank row) :
    fields 1 row = [row.trim] := by
  rw [fields, if_neg (mt trim_eq_nil_iff.mp filled)]
  rintro _ ⟨⟩

theorem isTrimmed_of_mem_fields {limit : Nat} {row field : Text}
    (member : field ∈ fields (limit + 1) row) : IsTrimmed field := by
  induction limit generalizing row with
  | zero =>
      by_cases blank : Blank row
      · simp [fields, trim_eq_nil_iff.mpr blank] at member
      · rw [fields_one_of_not_blank blank, List.mem_singleton] at member
        exact member ▸ isTrimmed_trim blank
  | succ limit ih =>
      rw [fields] at member
      split at member
      · cases member
      · next first rest opening =>
          have begins := front_trimStart row first (by rw [opening]; rfl)
          have word := isWord_takeWhile begins rest
          rcases List.mem_cons.mp member with rfl | later
          · exact word.isTrimmed
          · exact ih later

namespace Laid

theorem allWords {text : Text} {spans : List Span} (laid : Laid text spans) :
    AllWords text spans := by
  induction laid with
  | nil => exact ⟨fun span => by simp [wordAt_nil], List.Pairwise.nil⟩
  | blank blank _ ih =>
      constructor
      · intro span
        simp only [List.mem_map, wordAt_cons_blank_iff blank, ih.each]
      · rw [List.pairwise_map]
        exact ih.ordered.imp fun before => Nat.add_lt_add_left before 1
  | word solid boundary _ ih =>
      constructor
      · intro span
        simp only [List.mem_cons, List.mem_map, wordAt_word_append_iff solid boundary, ih.each]
      · rw [List.pairwise_cons, List.pairwise_map]
        refine ⟨?_, ih.ordered.imp fun before => Nat.add_lt_add_left before _⟩
        intro span member
        obtain ⟨later, inside, rfl⟩ := List.mem_map.mp member
        have filled := ((ih.each later).mp inside).start_pos boundary
        simp only [Span.after, Span.shift, List.length_nil]
        omega

theorem words {text : Text} {spans : List Span} (laid : Laid text spans) :
    Text.words text = spans.map (·.of text) := by
  induction laid with
  | nil => rw [words_nil, List.map_nil]
  | @blank c text spans blank _ ih =>
      rw [words_cons_blank blank, ih]
      exact (Span.map_of_shift [c] text spans).symm
  | @word word behind spans solid boundary _ ih =>
      have first : (Span.after [] word).of (word ++ behind) = word := Span.of_after [] word behind
      rw [List.map_cons, Span.map_of_shift, ← ih, first, solid.words_append boundary]

theorem blank_iff {text : Text} {spans : List Span} (laid : Laid text spans) :
    Blank text ↔ spans = [] := by
  rw [← words_eq_nil_iff, laid.words, List.map_eq_nil_iff]

theorem trimEnd_append {text : Text} {spans : List Span} (laid : Laid text spans) {last : Span}
    (final : spans.getLast? = some last) (kept : Text.trimEnd text = text.take last.stop)
    (front : Text) :
    Text.trimEnd (front ++ text) = (front ++ text).take (last.shift front.length).stop := by
  have filled : ¬ Blank text := by
    rw [laid.blank_iff]
    rintro rfl
    cases final
  rw [trimEnd_append_of_not_blank filled, kept]
  exact (List.take_length_add_append last.stop).symm

/-- Only blanks stand behind the last word. -/
theorem trimEnd {text : Text} {spans : List Span} (laid : Laid text spans) {last : Span}
    (final : spans.getLast? = some last) : Text.trimEnd text = text.take last.stop := by
  induction laid generalizing last with
  | nil => cases final
  | @blank c text spans blank later ih =>
      rw [List.getLast?_map, Option.map_eq_some_iff] at final
      obtain ⟨last, final, rfl⟩ := final
      exact later.trimEnd_append final (ih final) [c]
  | @word word behind spans solid boundary later ih =>
      rw [List.getLast?_cons, List.getLast?_map] at final
      cases ending : spans.getLast? with
      | none =>
          rw [ending] at final
          cases final
          have blank := later.blank_iff.mpr (List.getLast?_eq_none_iff.mp ending)
          rw [trimEnd_append_blank blank, trimEnd_of_back solid.isTrimmed.back]
          exact (Span.take_stop_after [] word behind).symm
      | some before =>
          rw [ending] at final
          cases final
          exact later.trimEnd_append ending (ih ending) word

/-- The last field reaches from the start of the first word that it takes to the last word. -/
theorem fields_one {text : Text} {spans : List Span} (laid : Laid text spans) :
    fields 1 text = (Span.hull? spans).toList.map (·.of text) := by
  induction laid with
  | nil => rfl
  | @blank c text spans blank _ ih =>
      rw [fields_cons_blank 1 blank, ih, Span.hull?_shift, Option.toList_map]
      exact (Span.map_of_shift [c] text _).symm
  | @word word behind spans solid boundary later _ =>
      have laid := Laid.word solid boundary later
      have filled : ¬ Blank (word ++ behind) := by
        rw [laid.blank_iff]
        exact List.cons_ne_nil _ _
      have final := laid.trimEnd (List.getLast?_eq_some_getLast (List.cons_ne_nil _ _))
      rw [fields_one_of_not_blank filled, Text.trim, solid.trimStart_append, final,
        Span.hull?_cons]
      rfl

theorem fields_eq {text : Text} {spans : List Span} (laid : Laid text spans) (limit : Nat) :
    fields (limit + 1) text = (Span.ofFields limit spans).map (·.of text) := by
  induction laid generalizing limit with
  | nil => cases limit <;> rfl
  | @blank c text spans blank _ ih =>
      rw [fields_cons_blank _ blank, ih, Span.ofFields_shift]
      exact (Span.map_of_shift [c] text _).symm
  | @word word behind spans solid boundary later ih =>
      cases limit with
      | zero =>
          have laid := Laid.word solid boundary later
          rw [laid.fields_one]
          rfl
      | succ limit =>
          have first : (Span.after [] word).of (word ++ behind) = word :=
            Span.of_after [] word behind
          rw [solid.fields_append limit boundary, ih, Span.ofFields_cons, Span.ofFields_shift,
            List.map_cons, Span.map_of_shift, first]

end Laid

/-- A row is split at its words. There are as many fields as words, up to the limit, and each is the
word at its place, but for the one at the limit: it is the piece of the row from the start of its
word to the stop of the last word. -/
theorem fields_split_at_words (row : Text) (limit : Nat) :
    ∃ spans, AllWords row spans ∧ row.words = spans.map (·.of row) ∧
      (row.fields (limit + 1)).length = min (limit + 1) spans.length ∧
      (∀ i < limit, (row.fields (limit + 1))[i]? = spans[i]?.map (·.of row)) ∧
      (∀ last ∈ spans.getLast?, (row.fields (limit + 1))[limit]? =
        spans[limit]?.map fun span => Span.of ⟨span.start, last.stop⟩ row) ∧
      (spans.length ≤ limit + 1 → row.fields (limit + 1) = row.words) ∧
      ∀ field ∈ row.fields (limit + 1), IsTrimmed field := by
  obtain ⟨spans, laid⟩ := exists_laid row
  have split := laid.fields_eq limit
  refine ⟨spans, laid.allWords, laid.words, ?_, ?_, ?_, ?_, fun _ => isTrimmed_of_mem_fields⟩
  · rw [split, List.length_map, Span.length_ofFields]
  · intro i before
    rw [split, List.getElem?_map, Span.getElem?_ofFields_of_lt before]
  · intro last final
    rw [split, List.getElem?_map, Span.getElem?_ofFields_self final, Option.map_map]
    rfl
  · intro few
    rw [split, Span.ofFields_of_length_le few, laid.words]

/-- The last of five fields keeps its blanks, but for those at the end of the row. -/
example : fields 5 "  1\t1\t0\t0\tmy file.c  ".toList =
    ["1".toList, "1".toList, "0".toList, "0".toList, "my file.c".toList] := by decide

end LiveRange.Text
