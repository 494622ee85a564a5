import LiveRange.Proofs.Entry.InfoLine
import LiveRange.Proofs.Entry.Scan
import LiveRange.Proofs.Numeral.Spelling
import LiveRange.Proofs.Text.Standing
import Mathlib.Data.List.Forall2

/-! A declaration does not depend on how the numbers of its dump are spelled: the value of an
attribute takes no part in which attribute it is, and a scan asks the value for its number only. -/

namespace LiveRange

section Place

/-- A name that is read has an underscore, and the value stands behind a colon. -/
theorem exists_colon_of_namedValue? {text name value : Text}
    (named : namedValue? text = some (name, value)) :
    ∃ before after : Text, text = before ++ ':' :: after ∧ '_' ∈ before ∧
      value = after.trimStart := by
  simp only [namedValue?, Option.bind_eq_bind, Option.bind_eq_some_iff] at named
  obtain ⟨tail, marked, rest, spelled, after, colon, result⟩ := named
  obtain ⟨run, _, _, rfl⟩ := Text.eq_of_afterRun? spelled
  obtain ⟨blanks, _, trimmed⟩ := Text.exists_eq_append_trimStart rest
  refine ⟨"DW_AT_".toList ++ (run ++ blanks), after, ?_, ?_, ?_⟩
  · rw [Text.eq_marked_of_after? marked, Text.marked, trimmed, Text.eq_marked_of_after? colon,
      Text.marked]
    simp
  · exact List.mem_append_left _ (by decide)
  · cases result
    rfl

theorem exists_colon_of_firstNamedValue? {afterWord : Bool} {text name value : Text}
    (named : firstNamedValue? afterWord text = some (name, value)) :
    ∃ before after : Text, text = before ++ ':' :: after ∧ '_' ∈ before ∧
      value = after.trimStart := by
  induction text generalizing afterWord with
  | nil => cases named
  | cons c rest ih =>
      rw [firstNamedValue?] at named
      split at named
      · next here =>
          cases named
          split_ifs at here
          exact exists_colon_of_namedValue? here
      · obtain ⟨before, after, split, underscore, result⟩ := ih named
        exact ⟨c :: before, after, by rw [split, List.cons_append],
          List.mem_cons_of_mem c underscore, result⟩

/-- Whether a name stands in front of the first colon does not depend on what stands behind it. -/
theorem exists_name_of_colon {front : Text} (first : ':' ∉ front) :
    ∃ name? : Option Text, ∀ after : Text,
      namedValue? (front ++ ':' :: after) = name?.map (·, after.trimStart) := by
  have absent : ':' ∉ "DW_AT_".toList := by decide
  have outside : isWordChar ':' = false := by decide
  cases marked : Text.after? "DW_AT_" front with
  | none =>
      refine ⟨none, ?_⟩
      intro after
      rw [namedValue?, Text.after?_append_stop absent, marked]
      rfl
  | some tail =>
      cases spelled : Text.afterRun? isWordChar tail with
      | none =>
          refine ⟨none, ?_⟩
          intro after
          rw [namedValue?, Text.after?_append_stop absent, marked]
          simp [Text.afterRun?_append_stop outside, spelled]
      | some rest =>
          have member {c : Char} (inside : c ∈ rest) : c ∈ front := by
            obtain ⟨run, _, _, rfl⟩ := Text.eq_of_afterRun? spelled
            rw [Text.eq_marked_of_after? marked]
            exact List.mem_append_right _ (List.mem_append_right run inside)
          have solid : isBlank ':' = false := rfl
          have named (after : Text) : namedValue? (front ++ ':' :: after) =
              (Text.after? ":" (rest.trimStart ++ ':' :: after)).bind
                fun value => some (front.takeWhile isWordChar, value.trimStart) := by
            rw [namedValue?, Text.after?_append_stop absent, marked]
            simp only [Option.map_some, Option.bind_eq_bind, Option.bind_some,
              Text.afterRun?_append_stop outside, spelled, Text.trimStart_append_stop solid,
              Text.takeWhile_append_stop outside]
            rfl
          cases trimmed : rest.trimStart with
          | nil =>
              refine ⟨some (front.takeWhile isWordChar), ?_⟩
              intro after
              rw [named, trimmed, List.nil_append]
              rfl
          | cons c others =>
              refine ⟨none, ?_⟩
              intro after
              have other : c ≠ ':' := by
                intro same
                have suffix : rest.trimStart <:+ rest := List.dropWhile_suffix isBlank
                rw [trimmed] at suffix
                exact first (member (suffix.subset (same ▸ List.mem_cons_self)))
              rw [named, trimmed, List.cons_append, Text.after?_cons_of_ne rfl other]
              rfl

section Value

variable {token other front back : Text}

/-- A value that starts with a word is behind the colon. -/
theorem exists_colon_of_value {afterWord : Bool} {name : Text}
    (named : firstNamedValue? afterWord (front ++ (token ++ back)) = some (name, token ++ back)) :
    ':' ∈ front ∧ '_' ∈ front := by
  obtain ⟨before, after, split, underscore, value⟩ := exists_colon_of_firstNamedValue? named
  obtain ⟨blanks, _, trimmed⟩ := Text.exists_eq_append_trimStart after
  have whole : front = before ++ ':' :: blanks := by
    rw [trimmed, ← value, ← List.cons_append, ← List.append_assoc before] at split
    exact List.append_cancel_right split
  rw [whole]
  exact ⟨List.mem_append_right before List.mem_cons_self, List.mem_append_left _ underscore⟩

variable (solid : token.IsWord) (solidOther : other.IsWord)

include solid solidOther

theorem firstNamedValue?_of_value {afterWord : Bool} {name : Text}
    (named : firstNamedValue? afterWord (front ++ (token ++ back)) = some (name, token ++ back)) :
    firstNamedValue? afterWord (front ++ (other ++ back)) = some (name, other ++ back) := by
  -- Over what stands in front of the name: a place that is passed over is passed over again.
  induction front generalizing afterWord with
  | nil => cases (exists_colon_of_value named).1
  | cons c front ih =>
      have colon := (exists_colon_of_value named).1
      obtain ⟨before, behind, split, first⟩ := List.eq_append_cons_of_mem colon
      obtain ⟨name?, read⟩ := exists_name_of_colon first
      have here (word : Text) (solid : word.IsWord) : namedValue? (c :: (front ++ (word ++ back))) =
          name?.map (·, Text.trimStart behind ++ (word ++ back)) := by
        rw [← List.cons_append, split, List.append_assoc, List.cons_append, read,
          Text.trimStart_append_word solid]
      rw [List.cons_append, firstNamedValue?, here token solid] at named
      rw [List.cons_append, firstNamedValue?, here other solidOther]
      cases afterWord with
      | true => exact ih named
      | false =>
          cases name? with
          | none => exact ih named
          | some found =>
              have result := Option.some.inj named
              rw [Prod.mk.injEq, List.append_left_eq_self] at result
              simp [result.1, result.2]

omit solid solidOther

/-- Headers are told by what stands in front of an underscore, which their marks lack. -/
theorem isUnitHeader_append (underscore : '_' ∈ front) (text rest : Text) :
    isUnitHeader (front ++ text) = isUnitHeader (front ++ rest) := by
  obtain ⟨before, behind, rfl, _⟩ := List.eq_append_cons_of_mem underscore
  have solid : isBlank '_' = false := rfl
  have absent : '_' ∉ "Compilation Unit @ offset".toList := by decide
  have same (text : Text) : isUnitHeader (before ++ '_' :: behind ++ text) =
      (Text.after? "Compilation Unit @ offset" (Text.trimStart before)).isSome := by
    rw [isUnitHeader, List.append_assoc, List.cons_append, Text.trimStart_append_stop solid,
      Text.startsWith, ← List.isSome_isPrefixOf?_eq_isPrefixOf]
    exact (congrArg Option.isSome (Text.after?_append_stop absent _ _)).trans Option.isSome_map
  rw [same, same]

theorem isEntryHeader_append (underscore : '_' ∈ front) (text rest : Text) :
    isEntryHeader (front ++ text) = isEntryHeader (front ++ rest) := by
  obtain ⟨before, behind, rfl, _⟩ := List.eq_append_cons_of_mem underscore
  have solid : isBlank '_' = false := rfl
  have marks : '_' ∉ "<".toList ∧ '_' ∉ "><".toList ∧ '_' ∉ ">: Abbrev Number:".toList := by decide
  have digits : isDecimalDigit '_' = false ∧ Numeral.isHexDigit '_' = false := by decide
  have same (text : Text) : isEntryHeader (before ++ '_' :: behind ++ text) =
      isEntryHeader before := by
    rw [isEntryHeader, isEntryHeader, List.append_assoc, List.cons_append,
      Text.trimStart_append_stop solid]
    simp only [Text.after?_append_stop marks.1, Text.after?_append_stop marks.2.1,
      Text.after?_append_stop marks.2.2, Text.afterRun?_append_stop digits.1,
      Text.afterRun?_append_stop digits.2, Option.bind_eq_bind, Option.bind_map, Function.comp_def,
      Option.isSome_bind, Option.isSome_map]
  rw [same, same]

theorem InfoLine.ofLine_eq_tracked_iff {line value : Text} {kind : Attribute} :
    ofLine line = .tracked kind value ↔ isUnitHeader line = false ∧ isEntryHeader line = false ∧
      Attribute.ofLine? line = some (kind, value) := by
  rw [ofLine]
  cases isUnitHeader line <;> cases isEntryHeader line <;>
    cases Attribute.ofLine? line <;> simp [Prod.ext_iff]

/-- The value of an attribute takes no part in what a line is. -/
theorem InfoLine.ofLine_of_value (solid : token.IsWord) (solidOther : other.IsWord)
    {kind : Attribute}
    (tracked : ofLine (front ++ (token ++ back)) = .tracked kind (token ++ back)) :
    ofLine (front ++ (other ++ back)) = .tracked kind (other ++ back) := by
  obtain ⟨unit, entry, found⟩ := ofLine_eq_tracked_iff.mp tracked
  obtain ⟨name, named, known⟩ := Attribute.ofLine?_eq_some_iff.mp found
  have underscore := (exists_colon_of_value named).2
  refine ofLine_eq_tracked_iff.mpr ⟨?_, ?_, ?_⟩
  · rw [isUnitHeader_append underscore _ (token ++ back), unit]
  · rw [isEntryHeader_append underscore _ (token ++ back), entry]
  · exact Attribute.ofLine?_eq_some_iff.mpr
      ⟨name, firstNamedValue?_of_value solid solidOther named, known⟩

end Value

end Place

namespace InfoLine

/-- Two lines that a scan reads alike. -/
inductive Alike : InfoLine → InfoLine → Prop
  | unitHeader : Alike .unitHeader .unitHeader
  | entryHeader : Alike .entryHeader .entryHeader
  | other : Alike .other .other
  | tracked (kind : Attribute) {value held : Text}
      (name : value.words.head?.map UnitName.parse = held.words.head?.map UnitName.parse)
      (number : firstNumber? value = firstNumber? held)
      (list : namedList? value = namedList? held) : Alike (.tracked kind value) (.tracked kind held)

theorem Alike.refl (info : InfoLine) : Alike info info := by
  cases info with
  | unitHeader => exact .unitHeader
  | entryHeader => exact .entryHeader
  | other => exact .other
  | tracked kind value => exact .tracked kind rfl rfl rfl

theorem forall₂_alike_refl (lines : List InfoLine) : List.Forall₂ Alike lines lines :=
  List.forall₂_same.mpr fun info _ => .refl info

variable {token respelling back : Text}

theorem alike_of_respells (kind : Attribute) (boundary : ∀ c ∈ back.head?, isBlank c = true)
    (respells : Numeral.Respells .decimal token respelling) :
    Alike (.tracked kind (token ++ back)) (.tracked kind (respelling ++ back)) := by
  have apart : Text.Apart [] back := ⟨by simp, boundary⟩
  have head {word : Text} (solid : word.IsWord) : (word ++ back).words.head? = some word := by
    have words := apart.words_word solid
    rw [List.nil_append, Text.words_nil, List.nil_append] at words
    rw [words, List.head?_cons]
  have name := UnitName.parse_of_respells respells
  have list := ListOffset.parse?_of_respells respells
  have number := respells.parse?_eq
  obtain ⟨value, spells, spellsOther⟩ := respells
  have foreign : Text.Foreign Numeral.Radix.decimal.admits "location list" := by decide
  have listed {word : Text} (spells : Numeral.Spells .decimal word value) :
      (word ++ back).mentions "location list" = back.mentions "location list" := by
    have behind := foreign.mentions_append spells.isWord spells.admits apart
    rwa [List.nil_append, foreign.mentions_nil, Bool.false_or] at behind
  refine .tracked kind ?_ ?_ ?_
  · rw [head spells.isWord, head spellsOther.isWord, Option.map_some, Option.map_some, name]
  · rw [firstNumber?, firstNumber?, head spells.isWord, head spellsOther.isWord, Option.bind_some,
      Option.bind_some, number]
  · rw [namedList?, namedList?, listed spells, listed spellsOther, head spells.isWord,
      head spellsOther.isWord, Option.bind_some, Option.bind_some, list]

end InfoLine

namespace EntryScan

variable {lines others : List InfoLine}

theorem step_of_alike {info held : InfoLine} (alike : info.Alike held) (scan : EntryScan) :
    scan.step info = scan.step held := by
  cases alike with
  | unitHeader => rfl
  | entryHeader => rfl
  | other => rfl
  | tracked kind name number list =>
      cases kind with
      | stmtList => simp only [step, name]
      | location => simp only [step, list]
      | declFile => simp only [step, number]
      | declLine => rfl

theorem trailingLocation?_of_alike (alike : List.Forall₂ InfoLine.Alike lines others) :
    trailingLocation? lines = trailingLocation? others := by
  induction alike with
  | nil => rfl
  | cons first _ ih =>
      cases first with
      | unitHeader => rfl
      | entryHeader => rfl
      | other => exact ih
      | tracked kind name number list =>
          cases kind with
          | location => exact congrArg some list
          | stmtList => exact ih
          | declFile => exact ih
          | declLine => exact ih

variable (table : SourceTable) (source : Path) (line : UInt64) (scan : EntryScan)

theorem complete?_of_alike {value held : Text} (number : firstNumber? value = firstNumber? held)
    (alike : List.Forall₂ InfoLine.Alike lines others) :
    scan.complete? table source line value lines =
      scan.complete? table source line held others := by
  rw [complete?, complete?, number, locationBefore, locationBefore,
    trailingLocation?_of_alike alike]

theorem find?_of_alike (alike : List.Forall₂ InfoLine.Alike lines others) :
    find? table source line scan lines = find? table source line scan others := by
  induction alike generalizing scan with
  | nil => rfl
  | cons first later ih =>
      have step := step_of_alike first scan
      cases first with
      | unitHeader => exact ih _
      | entryHeader => exact ih _
      | other => exact ih _
      | tracked kind name number list =>
          cases kind with
          | declLine =>
              rw [find?_declLine, find?_declLine,
                complete?_of_alike table source line scan number later, ih]
          | stmtList => rw [find?_cons (by simp), find?_cons (by simp), step, ih]
          | location => rw [find?_cons (by simp), find?_cons (by simp), step, ih]
          | declFile => rw [find?_cons (by simp), find?_cons (by simp), step, ih]

end EntryScan

namespace Declaration

/-- Where a dump of entries has a number: first in the value of an attribute that counts. -/
def NumberAt (_ : List Text) (front token back : Text) : Prop :=
  (∃ kind, InfoLine.ofLine (front ++ (token ++ back)) = .tracked kind (token ++ back)) ∧
    ∀ c ∈ back.head?, isBlank c = true

theorem find?_of_respelled {dump other : Text}
    (respelled : Numeral.RespelledAt .decimal NumberAt dump other) (table : SourceTable)
    (source : Path) (line : UInt64) :
    find? dump table source line = find? other table source line := by
  obtain ⟨rows, otherRows, ⟨⟨kind, tracked⟩, boundary⟩, respells⟩ := respelled
  have alike := InfoLine.alike_of_respells kind boundary respells
  obtain ⟨value, spells, spellsOther⟩ := respells
  have trackedOther := InfoLine.ofLine_of_value spells.isWord spellsOther.isWord tracked
  rw [find?, find?, rows, otherRows, List.map_append, List.map_append, List.map_cons,
    List.map_cons, tracked, trackedOther]
  apply EntryScan.find?_of_alike
  exact List.rel_append (InfoLine.forall₂_alike_refl _)
    (List.Forall₂.cons alike (InfoLine.forall₂_alike_refl _))

end Declaration

end LiveRange
