import LiveRange.Entry.InfoLine
import LiveRange.Proofs.Numeral
import LiveRange.Proofs.Text.Marks

/-! What a line of a dump of entries is read as, told by its front: the leftmost attribute name, and
the brackets of a header. -/

namespace LiveRange

/-- What holds of every blank, tried one by one. -/
theorem of_isBlank {property : Char → Prop}
    (each : ∀ code ∈ [9, 10, 11, 12, 13, 0x20, 0x85, 0xA0, 0x1680, 0x2000, 0x2001, 0x2002, 0x2003,
      0x2004, 0x2005, 0x2006, 0x2007, 0x2008, 0x2009, 0x200A, 0x2028, 0x2029, 0x202F, 0x205F,
      0x3000], property (Char.ofNat code)) {c : Char} (blank : isBlank c = true) : property c := by
  simp only [isBlank, Bool.or_eq_true, Bool.and_eq_true, decide_eq_true_eq, beq_iff_eq] at blank
  have plain := each c.toNat (by
    simp only [List.mem_cons, List.not_mem_nil, or_false]
    omega)
  rwa [Char.ofNat_toNat] at plain

theorem isWordChar_of_isBlank {c : Char} (blank : isBlank c = true) : isWordChar c = false := by
  apply of_isBlank _ blank
  decide +kernel

theorem isDecimalDigit_of_isBlank {c : Char} (blank : isBlank c = true) :
    isDecimalDigit c = false := by
  apply of_isBlank _ blank
  decide +kernel

theorem isHexDigit_of_isBlank {c : Char} (blank : isBlank c = true) :
    Numeral.isHexDigit c = false := by
  cases digit : Numeral.isHexDigit c with
  | false => rfl
  | true =>
      rw [Numeral.isBlank_of_isHexDigit digit] at blank
      cases blank

theorem namedValue?_cons_of_ne {c : Char} (other : c ≠ 'D') (rest : Text) :
    namedValue? (c :: rest) = none := by
  rw [namedValue?, Text.after?_cons_of_ne rfl other]
  rfl

theorem namedValue?_marked {name blanks : Text} (nonempty : name ≠ [])
    (word : ∀ c ∈ name, isWordChar c = true) (blank : Text.Blank blanks) (value : Text) :
    namedValue? (Text.marked "DW_AT_" (name ++ (blanks ++ ':' :: value))) =
      some (Text.marked "DW_AT_" name, value.trimStart) := by
  have boundary : ∀ c ∈ (blanks ++ ':' :: value).head?, isWordChar c = false := by
    intro c first
    cases blanks with
    | nil =>
        cases first
        decide
    | cons d blanks =>
        cases first
        exact isWordChar_of_isBlank (blank c List.mem_cons_self)
  have behind : Text.trimStart (blanks ++ ':' :: value) = Text.marked ":" value := by
    rw [Text.trimStart_append_blank blank]
    have colon : ":".toList = ':' :: [] := rfl
    exact Text.trimStart_marked colon rfl value
  have letters : ∀ c ∈ "DW_AT_".toList ++ name, isWordChar c = true := by
    have mark : ∀ c ∈ "DW_AT_".toList, isWordChar c = true := by decide
    intro c member
    rcases List.mem_append.mp member with front | back
    · exact mark c front
    · exact word c back
  have taken : (Text.marked "DW_AT_" (name ++ (blanks ++ ':' :: value))).takeWhile isWordChar =
      Text.marked "DW_AT_" name := by
    rw [Text.marked, ← List.append_assoc, Text.takeWhile_run letters boundary]
    rfl
  rw [namedValue?, Text.after?_marked, Option.bind_eq_bind, Option.bind_some,
    Text.afterRun?_append nonempty word boundary, Option.bind_some, behind, Text.after?_marked,
    taken]
  rfl

theorem firstNamedValue?_of_named {text : Text} {found : Text × Text}
    (named : namedValue? text = some found) : firstNamedValue? false text = some found := by
  cases text with
  | nil => cases named
  | cons c rest =>
      rw [firstNamedValue?, if_neg Bool.false_ne_true, named]

/-- A mark has an underscore, so none starts in a part that lacks one and ends at a character which
belongs to no word. -/
theorem firstNamedValue?_append {front : Text} (absent : '_' ∉ front) {stop : Char}
    (solid : isWordChar stop = false) (afterWord : Bool) (rest : Text) :
    firstNamedValue? afterWord (front ++ stop :: rest) = firstNamedValue? false rest := by
  have letters : ∀ c ∈ "DW_AT_".toList, isWordChar c = true := by decide
  have other : stop ∉ "DW_AT_".toList := by
    intro member
    rw [letters stop member] at solid
    cases solid
  induction front generalizing afterWord with
  | nil =>
      have differs : stop ≠ 'D' := fun same => other (same ▸ List.mem_cons_self)
      rw [List.nil_append, firstNamedValue?, namedValue?_cons_of_ne differs, solid, ite_self]
  | cons c front ih =>
      have unmarked : Text.after? "DW_AT_" (c :: front) = none := by
        cases found : Text.after? "DW_AT_" (c :: front) with
        | none => rfl
        | some tail =>
            rw [Text.eq_marked_of_after? found] at absent
            exact absurd (List.mem_append_left tail (by decide)) absent
      have unnamed : namedValue? ((c :: front) ++ stop :: rest) = none := by
        rw [namedValue?, Text.after?_append_stop other, unmarked]
        rfl
      have later : '_' ∉ front := fun member => absent (List.mem_cons_of_mem c member)
      rw [List.cons_append] at unnamed
      rw [List.cons_append, firstNamedValue?, unnamed, ite_self]
      exact ih later (isWordChar c)

theorem firstNamedValue?_append_blank {blanks : Text} (blank : Text.Blank blanks) (text : Text) :
    firstNamedValue? false (blanks ++ text) = firstNamedValue? false text := by
  induction blanks with
  | nil => rfl
  | cons c blanks ih =>
      have solid := isWordChar_of_isBlank (blank c List.mem_cons_self)
      have here := firstNamedValue?_append List.not_mem_nil solid false (blanks ++ text)
      rw [List.nil_append] at here
      rw [List.cons_append, here]
      exact ih fun d member => blank d (List.mem_cons_of_mem c member)

theorem firstNamedValue?_of_unnamed {line : Text} (unnamed : Text.mentions "DW_AT_" line = false)
    (afterWord : Bool) : firstNamedValue? afterWord line = none := by
  induction line generalizing afterWord with
  | nil => rfl
  | cons c rest ih =>
      rw [Text.mentions, Bool.or_eq_false_iff] at unnamed
      have unread : namedValue? (c :: rest) = none := by
        cases found : Text.after? "DW_AT_" (c :: rest) with
        | none =>
            rw [namedValue?, found]
            rfl
        | some tail =>
            have opening := unnamed.1
            rw [Text.eq_marked_of_after? found, Text.startsWith_marked] at opening
            cases opening
      rw [firstNamedValue?, unread, ite_self]
      exact ih unnamed.2 (isWordChar c)

section Headers

variable {line behind : Text}

theorem isUnitHeader_of_bracket (front : line.trimStart = Text.marked "<" behind) :
    isUnitHeader line = false := by
  rw [isUnitHeader, front]
  exact Text.startsWith_marked_of_ne rfl rfl (by decide) behind

/-- Behind the digits of its offset no second bracket opens. -/
theorem isEntryHeader_of_unopened {digits : Text}
    (front : line.trimStart = Text.marked "<" (digits ++ '>' :: behind))
    (closed : '>' ∉ digits) (unopened : '<' ∉ behind.head?) : isEntryHeader line = false := by
  have rest : ∀ rest, Text.afterRun? isDecimalDigit digits = some rest →
      Text.after? "><" (rest ++ '>' :: behind) = none := by
    intro rest found
    have ⟨run, _, _, split⟩ := Text.eq_of_afterRun? found
    cases rest with
    | nil =>
        cases opening : Text.after? "><" ([] ++ '>' :: behind) with
        | none => rfl
        | some tail =>
            have whole := (List.cons.inj (Text.eq_marked_of_after? opening)).2
            rw [whole] at unopened
            exact absurd rfl unopened
    | cons c rest =>
        have member : c ∈ digits := split ▸ List.mem_append_right run List.mem_cons_self
        have differs : c ≠ '>' := by
          intro same
          exact closed (same ▸ member)
        exact Text.after?_cons_of_ne rfl differs _
  rw [isEntryHeader, front, Text.after?_marked, Option.bind_eq_bind, Option.bind_some,
    Text.afterRun?_append_stop (by decide)]
  cases found : Text.afterRun? isDecimalDigit digits with
  | none => rfl
  | some tail =>
      simp only [Option.map_some, Option.bind_some, rest tail found, Option.bind_none]
      rfl

end Headers

namespace Attribute

theorem name_of_ofName? {text : Text} {kind : Attribute} (found : ofName? text = some kind) :
    kind.name.toList = text := by
  have listed : all.find? (fun kind => decide (kind.name.toList = text)) = some kind := found
  have named := List.find?_some listed
  exact of_decide_eq_true named

theorem ofName?_name (kind : Attribute) : ofName? kind.name.toList = some kind := by
  cases kind <;> decide

theorem ofName?_eq_some_iff {text : Text} {kind : Attribute} :
    ofName? text = some kind ↔ kind.name.toList = text := by
  constructor
  · exact name_of_ofName?
  · rintro rfl
    exact ofName?_name kind

theorem ofLine?_eq_some_iff {line value : Text} {kind : Attribute} :
    ofLine? line = some (kind, value) ↔
      ∃ name, firstNamedValue? false line = some (name, value) ∧ ofName? name = some kind := by
  rw [ofLine?]
  cases firstNamedValue? false line with
  | none => simp
  | some found =>
      obtain ⟨name, held⟩ := found
      cases known : ofName? name <;> simp [known, and_comm]

end Attribute

end LiveRange
