import LiveRange.Proofs.LocationList.LineWindow
import LiveRange.Proofs.Numeral.Spelling
import LiveRange.Proofs.Text.Standing
import Mathlib.Data.List.Forall2

/-! The ranges of a list do not depend on how the numbers of its dump are spelled. -/

namespace LiveRange

theorem AddressRange.spelled?_of_respells {token other : Text}
    (respells : Numeral.Respells .hexadecimal token other) (before after : List Text)
    (position : Nat) :
    spelled? (before ++ token :: after) position =
      spelled? (before ++ other :: after) position := by
  rw [spelled?, spelled?, respells.number_at, respells.number_at]

namespace LocationList

/-- Two rows that are read alike. -/
structure Row.Alike (row other : Row) : Prop where
  opens : ∀ list, row.opens list = other.opens list
  closes : row.closes = other.closes
  announces : row.announces = other.announces
  range : ∀ announced, row.range? announced = other.range? announced
  leading : AddressRange.leading? row.rest = AddressRange.leading? other.rest

theorem Row.Alike.refl (row : Row) : row.Alike row := ⟨fun _ => rfl, rfl, rfl, fun _ => rfl, rfl⟩

theorem RangeScan.read_of_alike (list : ListOffset) (scan : RangeScan) {row other : Row}
    (alike : row.Alike other) : scan.read list row = scan.read list other := by
  rw [read, read]
  cases scan.phase with
  | seeking => rw [alike.opens, alike.announces, alike.leading]
  | inside announced => simp only [alike.closes, alike.announces, alike.range]
  | closed => rfl

theorem RangeScan.foldl_of_alike (list : ListOffset) (scan : RangeScan) {rows others : List Row}
    (alike : List.Forall₂ Row.Alike rows others) :
    rows.foldl (read list) scan = others.foldl (read list) scan := by
  induction alike generalizing scan with
  | nil => rfl
  | cons first _ ih => rw [List.foldl_cons, List.foldl_cons, scan.read_of_alike list first, ih]

theorem ranges_of_alike {dump other : Text}
    (alike : List.Forall₂ Row.Alike (rows dump) (rows other)) (list : ListOffset) :
    ranges dump list = ranges other list := by
  rw [ranges_eq_foldl, ranges_eq_foldl, RangeScan.foldl_of_alike list {} alike]

section Row

variable {front token other back : Text} (apart : Text.Apart front back)

include apart

theorem mentions_behindFirst_of_respells (mark : String)
    (foreign : Text.Foreign Numeral.Radix.hexadecimal.admits mark)
    (respells : Numeral.Respells .hexadecimal token other) :
    (Text.behindFirst (front ++ (token ++ back))).mentions mark =
      (Text.behindFirst (front ++ (other ++ back))).mentions mark := by
  obtain ⟨value, spells, spellsOther⟩ := respells
  by_cases blank : front.Blank
  · rw [Text.behindFirst_word blank spells.isWord apart.back,
      Text.behindFirst_word blank spellsOther.isWord apart.back]
  · have behind : Text.Apart front.behindFirst back := apart.of_suffix
      ((List.dropWhile_suffix (!isBlank ·)).trans (List.dropWhile_suffix isBlank))
    rw [apart.behindFirst_append blank, apart.behindFirst_append blank,
      foreign.mentions_append spells.isWord spells.admits behind,
      foreign.mentions_append spellsOther.isWord spellsOther.admits behind]

theorem Row.alike_of_respells (respells : Numeral.Respells .hexadecimal token other) :
    (ofSolid (front ++ (token ++ back))).Alike (ofSolid (front ++ (other ++ back))) := by
  have number := respells.number_at front.words back.words
  have spelled := AddressRange.spelled?_of_respells respells front.words back.words
  have views := mentions_behindFirst_of_respells apart "views at" (by decide) respells
  have base := mentions_behindFirst_of_respells apart "(base address)" (by decide) respells
  obtain ⟨value, spells, spellsOther⟩ := respells
  have words {word : Text} (solid : word.IsWord) := apart.words_word solid
  have filled {word : Text} (solid : word.IsWord) := apart.not_blank solid
  have ended : Text.Foreign Numeral.Radix.hexadecimal.admits "<End of list>" := by decide
  have closing : (Text.mentions "<End of list>" (front ++ (token ++ back))) =
      Text.mentions "<End of list>" (front ++ (other ++ back)) := by
    rw [ended.mentions_append spells.isWord spells.admits apart,
      ended.mentions_append spellsOther.isWord spellsOther.admits apart]
  have leading : AddressRange.leading? (Text.behindFirst (front ++ (token ++ back))).trim =
      AddressRange.leading? (Text.behindFirst (front ++ (other ++ back))).trim := by
    rw [leading?_trim_behindFirst (filled spells.isWord),
      leading?_trim_behindFirst (filled spellsOther.isWord), words spells.isWord,
      words spellsOther.isWord, spelled]
  refine ⟨?_, closing, ?_, ?_, leading⟩
  · intro list
    have first := number 0
    rw [Bool.eq_iff_iff, opens_ofSolid (filled spells.isWord),
      opens_ofSolid (filled spellsOther.isWord), closing, words spells.isWord,
      words spellsOther.isWord]
    simp only [Option.mem_def, ← Option.bind_eq_some_iff, List.head?_eq_getElem?, first]
  · rw [announces_ofSolid, announces_ofSolid, views]
  · intro announced
    have trimmed (line : Text) : (ofSolid line).rest.mentions "(base address)" =
        line.behindFirst.mentions "(base address)" :=
      Text.mentions_trim (by decide) line.behindFirst
    rw [range?, range?, trimmed, trimmed, base, ofSolid, ofSolid]
    simp only [leading]
    simp only [leading?_eq_spelled?, words spells.isWord, words spellsOther.isWord, spelled,
      List.length_append, List.length_cons]

end Row

/-- Where a dump of lists may have a number: any word of any row. -/
def NumberAt (_ : List Text) (front _ back : Text) : Prop := Text.Apart front back

theorem ranges_of_respelled {dump other : Text}
    (respelled : Numeral.RespelledAt .hexadecimal NumberAt dump other) (list : ListOffset) :
    ranges dump list = ranges other list := by
  obtain ⟨lines, otherLines, apart, respells⟩ := respelled
  have row := Row.alike_of_respells apart respells
  obtain ⟨value, spells, spellsOther⟩ := respells
  have kept (others : List Row) : List.Forall₂ Row.Alike others others :=
    List.forall₂_same.mpr fun row _ => .refl row
  apply ranges_of_alike
  rw [rows, rows, lines, otherLines, List.filterMap_append, List.filterMap_append,
    List.filterMap_cons_some (Row.ofLine?_of_not_blank (Text.Apart.not_blank apart spells.isWord)),
    List.filterMap_cons_some
      (Row.ofLine?_of_not_blank (Text.Apart.not_blank apart spellsOther.isWord))]
  exact List.rel_append (kept _) (.cons row (kept _))

end LocationList

end LiveRange
