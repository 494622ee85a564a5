import LiveRange.Entry.Declaration
import Mathlib.Data.List.Basic

/-! What a scan of entries holds at a line, told from the lines before it: every field is that of
the last line that sets it. -/

namespace LiveRange

def infoLines (dump : Text) : List InfoLine := dump.lines.map InfoLine.ofLine

variable {α β : Type}

/-- What the last element that sets something sets. -/
def latest? (sets : α → Option β) (items : List α) : Option β := items.reverse.findSome? sets

theorem latest?_cons (sets : α → Option β) (item : α) (items : List α) :
    latest? sets (item :: items) = (latest? sets items).or (sets item) := by
  rw [latest?, List.reverse_cons, List.findSome?_append, List.findSome?_singleton, latest?]

theorem latest?_eq_getLast? (sets : α → Option β) (items : List α) :
    latest? sets items = (items.filterMap sets).getLast? := by
  rw [latest?, List.getLast?_filterMap]

theorem latest?_eq_some_iff {sets : α → Option β} {items : List α} {value : β} :
    latest? sets items = some value ↔ ∃ before item after, items = before ++ item :: after ∧
      sets item = some value ∧ ∀ later ∈ after, sets later = none := by
  rw [latest?, List.findSome?_eq_some_iff]
  constructor
  · rintro ⟨after, item, before, split, setting, silent⟩
    refine ⟨before.reverse, item, after.reverse, ?_, setting, ?_⟩
    · have whole := congrArg List.reverse split
      rw [List.reverse_reverse, List.reverse_append, List.reverse_cons] at whole
      rw [whole, List.append_assoc, List.singleton_append]
    · intro later member
      exact silent later (List.mem_reverse.mp member)
  · rintro ⟨before, item, after, split, setting, silent⟩
    refine ⟨after.reverse, item, before.reverse, ?_, setting, ?_⟩
    · rw [split, List.reverse_append, List.reverse_cons, List.append_assoc, List.singleton_append]
    · intro later member
      exact silent later (List.mem_reverse.mp member)

namespace InfoLine

def setsUnit : InfoLine → Option (Option UnitName)
  | unitHeader => some none
  | tracked .stmtList value => some (value.words.head?.map UnitName.parse)
  | _ => none

def setsLocation : InfoLine → Option (Option ListOffset)
  | unitHeader => some none
  | tracked .location value => some (namedList? value)
  | _ => none

def setsDeclFile : InfoLine → Option (Option UInt64)
  | unitHeader => some none
  | tracked .declFile value => some (firstNumber? value)
  | tracked .declLine _ => some none
  | _ => none

def setsHeadersSeen : InfoLine → Option Bool
  | entryHeader => some true
  | _ => none

def setsOwnLocation : InfoLine → Option Bool
  | unitHeader | entryHeader => some false
  | tracked .location _ => some true
  | _ => none

end InfoLine

namespace EntryScan

variable (lines : List InfoLine) (scan : EntryScan)

theorem foldl_step {field : EntryScan → β} {sets : InfoLine → Option β}
    (each : ∀ scan info, field (step scan info) = (sets info).getD (field scan)) :
    field (lines.foldl step scan) = (latest? sets lines).getD (field scan) := by
  induction lines generalizing scan with
  | nil => rfl
  | cons info lines ih =>
      rw [List.foldl_cons, ih (scan.step info), each, latest?_cons]
      cases latest? sets lines <;> rfl

theorem unit_foldl :
    (lines.foldl step scan).unit = (latest? InfoLine.setsUnit lines).getD scan.unit := by
  refine foldl_step lines scan ?_
  intro scan info
  rcases info with _ | _ | ⟨_ | _ | _ | _, _⟩ | _ <;> rfl

theorem location_foldl :
    (lines.foldl step scan).location =
      (latest? InfoLine.setsLocation lines).getD scan.location := by
  refine foldl_step lines scan ?_
  intro scan info
  rcases info with _ | _ | ⟨_ | _ | _ | _, _⟩ | _ <;> rfl

theorem declFile_foldl :
    (lines.foldl step scan).declFile =
      (latest? InfoLine.setsDeclFile lines).getD scan.declFile := by
  refine foldl_step lines scan ?_
  intro scan info
  rcases info with _ | _ | ⟨_ | _ | _ | _, _⟩ | _ <;> rfl

theorem headersSeen_foldl :
    (lines.foldl step scan).headersSeen =
      (latest? InfoLine.setsHeadersSeen lines).getD scan.headersSeen := by
  refine foldl_step lines scan ?_
  intro scan info
  rcases info with _ | _ | ⟨_ | _ | _ | _, _⟩ | _ <;> rfl

theorem ownLocation_foldl :
    (lines.foldl step scan).ownLocation =
      (latest? InfoLine.setsOwnLocation lines).getD scan.ownLocation := by
  refine foldl_step lines scan ?_
  intro scan info
  rcases info with _ | _ | ⟨_ | _ | _ | _, _⟩ | _ <;> rfl

variable {scan} {table : SourceTable} {source : Path} {line : UInt64}

theorem complete?_eq_some_iff {value : Text} {later : List InfoLine} {declaration : Declaration} :
    scan.complete? table source line value later = some declaration ↔
      scan.unit = some declaration.unit ∧ scan.declFile = some declaration.index ∧
        firstNumber? value = some line ∧ declaration.line = line ∧
        table.path? declaration.unit declaration.index = some declaration.path ∧
        declaration.path.Same source ∧ declaration.location = scan.locationBefore later := by
  constructor
  · intro completed
    simp only [complete?, Option.bind_eq_bind, Option.bind_eq_some_iff] at completed
    obtain ⟨unit, named, index, pending, declared, number, path, known, result⟩ := completed
    split_ifs at result with wanted
    cases result
    exact ⟨named, pending, wanted.2 ▸ number, rfl, known, wanted.1, rfl⟩
  · rintro ⟨named, pending, number, rfl, known, same, located⟩
    obtain ⟨unit, index, path, line, location⟩ := declaration
    simp only [] at named pending number known same located
    simp only [complete?, named, pending, number, known, located, same, Option.bind_eq_bind,
      Option.bind_some, and_self, if_true]

theorem find?_declLine (value : Text) (later : List InfoLine) :
    find? table source line scan (.tracked .declLine value :: later) =
      (scan.complete? table source line value later).or
        (find? table source line { scan with declFile := none } later) := by
  rw [find?]
  cases scan.complete? table source line value later <;> rfl

theorem find?_cons {info : InfoLine} (other : ∀ value, info ≠ .tracked .declLine value)
    (later : List InfoLine) :
    find? table source line scan (info :: later) =
      find? table source line (scan.step info) later := by
  rcases info with _ | _ | ⟨_ | _ | _ | _, value⟩ | _
  all_goals first | rfl | exact absurd rfl (other value)

theorem find?_append {front : List InfoLine} (unclosed : ∀ value, .tracked .declLine value ∉ front)
    (rest : List InfoLine) :
    find? table source line scan (front ++ rest) =
      find? table source line (front.foldl step scan) rest := by
  induction front generalizing scan with
  | nil => rfl
  | cons info front ih =>
      have here : ∀ value, info ≠ .tracked .declLine value := by
        rintro value rfl
        exact unclosed value List.mem_cons_self
      have later : ∀ value, .tracked .declLine value ∉ front := fun value member =>
        unclosed value (List.mem_cons_of_mem info member)
      rw [List.cons_append, find?_cons here, ih later, List.foldl_cons]

theorem trailingLocation?_append {rest : List InfoLine} (ends : trailingLocation? rest = none)
    (front : List InfoLine) :
    trailingLocation? (front ++ rest) = trailingLocation? front := by
  induction front with
  | nil => exact ends
  | cons info front ih =>
      rcases info with _ | _ | ⟨_ | _ | _ | _, _⟩ | _
      case tracked.location => rfl
      all_goals first | rfl | exact ih

theorem complete?_append {rest : List InfoLine} (ends : trailingLocation? rest = none)
    (value : Text) (later : List InfoLine) :
    scan.complete? table source line value (later ++ rest) =
      scan.complete? table source line value later := by
  rw [complete?, complete?, locationBefore, locationBefore, trailingLocation?_append ends]

/-- A declaration takes nothing from behind the next header, so a scan may stop at one and go on
from there. -/
theorem find?_append_of_ends {rest : List InfoLine} (ends : trailingLocation? rest = none)
    (front : List InfoLine) :
    find? table source line scan (front ++ rest) =
      (find? table source line scan front).or
        (find? table source line (front.foldl step scan) rest) := by
  induction front generalizing scan with
  | nil => rfl
  | cons info front ih =>
      rw [List.cons_append, List.foldl_cons]
      by_cases closing : ∃ value, info = .tracked .declLine value
      · obtain ⟨value, rfl⟩ := closing
        rw [find?_declLine, find?_declLine, complete?_append ends, ih, Option.or_assoc]
        rfl
      · have other : ∀ value, info ≠ .tracked .declLine value := not_exists.mp closing
        rw [find?_cons other, find?_cons other, ih]

/-- Where a declaration is found, its line completes it. -/
theorem complete?_of_find? {lines : List InfoLine} {declaration : Declaration}
    (found : find? table source line scan lines = some declaration) :
    ∃ before value after, lines = before ++ .tracked .declLine value :: after ∧
      (before.foldl step scan).complete? table source line value after = some declaration := by
  induction lines generalizing scan with
  | nil => cases found
  | cons info later ih =>
      have goOn (deferred : find? table source line (scan.step info) later = some declaration) :
          ∃ before value after, info :: later = before ++ .tracked .declLine value :: after ∧
            (before.foldl step scan).complete? table source line value after =
              some declaration := by
        obtain ⟨before, value, after, rfl, completed⟩ := ih deferred
        exact ⟨info :: before, value, after, rfl, completed⟩
      by_cases closing : ∃ value, info = .tracked .declLine value
      · obtain ⟨value, rfl⟩ := closing
        rw [find?_declLine, Option.or_eq_some_iff] at found
        rcases found with here | ⟨_, deferred⟩
        · exact ⟨[], value, later, rfl, here⟩
        · exact goOn deferred
      · rw [find?_cons fun value same => closing ⟨value, same⟩] at found
        exact goOn found

/-- A line that completes a declaration is passed over for an earlier one only. -/
theorem find?_isSome_of_complete? {before after : List InfoLine} {value : Text}
    (completed : ((before.foldl step scan).complete? table source line value after).isSome = true) :
    (find? table source line scan (before ++ .tracked .declLine value :: after)).isSome = true := by
  induction before generalizing scan with
  | nil =>
      rw [List.nil_append, find?_declLine, Option.isSome_or]
      exact Bool.or_eq_true_iff.mpr (Or.inl completed)
  | cons info before ih =>
      have deferred := ih completed
      rw [List.cons_append]
      by_cases closing : ∃ value, info = .tracked .declLine value
      · obtain ⟨value, rfl⟩ := closing
        rw [find?_declLine, Option.isSome_or]
        exact Bool.or_eq_true_iff.mpr (Or.inr deferred)
      · rw [find?_cons fun value same => closing ⟨value, same⟩]
        exact deferred

end EntryScan

end LiveRange
