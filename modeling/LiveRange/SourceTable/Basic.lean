import LiveRange.Path
import LiveRange.UnitName

/-! Source files by line-number program and by their index in it. -/

namespace LiveRange

/-- The same index means different files in different programs. -/
structure SourceKey where
  unit : UnitName
  index : UInt64
  deriving DecidableEq, Repr

/-- At most one path for each key, in no particular order. -/
structure SourceTable where
  entries : List (SourceKey × Path) := []
  distinct : (entries.map Prod.fst).Nodup := by simp

namespace SourceTable

def empty : SourceTable := {}

/-- Sets the path of a key, in place of an earlier one. -/
def insert (table : SourceTable) (key : SourceKey) (path : Path) : SourceTable where
  entries := (key, path) :: table.entries.filter (·.1 ≠ key)
  distinct := by
    rw [List.map_cons, List.nodup_cons]
    refine ⟨by simp, ?_⟩
    exact table.distinct.sublist (List.filter_sublist.map _)

/-- Later pairs replace earlier ones. -/
def ofList (pairs : List (SourceKey × Path)) : SourceTable :=
  pairs.foldl (fun table pair => table.insert pair.1 pair.2) empty

def path? (table : SourceTable) (unit : UnitName) (index : UInt64) : Option Path :=
  table.entries.lookup { unit, index }

def size (table : SourceTable) : Nat := table.entries.length

theorem path?_empty (unit : UnitName) (index : UInt64) : empty.path? unit index = none := rfl

theorem lookup_filter_ne (entries : List (SourceKey × Path)) {key other : SourceKey}
    (differ : other ≠ key) :
    (entries.filter (·.1 ≠ key)).lookup other = entries.lookup other := by
  induction entries with
  | nil => rfl
  | cons entry entries ih =>
    obtain ⟨entryKey, path⟩ := entry
    by_cases same : entryKey = key
    · have unequal : (other == entryKey) = false := by simpa [same] using differ
      rw [List.filter_cons_of_neg (by simp [same]), ih, List.lookup_cons, unequal]
    · rw [List.filter_cons_of_pos (by simp [same]), List.lookup_cons, List.lookup_cons, ih]

theorem path?_insert (table : SourceTable) (key : SourceKey) (path : Path) (unit : UnitName)
    (index : UInt64) :
    (table.insert key path).path? unit index =
      if key = { unit, index } then some path else table.path? unit index := by
  by_cases same : key = { unit, index }
  · simp [path?, insert, same]
  · have differ : SourceKey.mk unit index ≠ key := fun equal => same equal.symm
    have unequal : (SourceKey.mk unit index == key) = false := by simpa using differ
    simp only [path?, insert, List.lookup_cons, unequal, if_neg same]
    exact lookup_filter_ne table.entries differ

def isEmpty (table : SourceTable) : Bool := table.entries.isEmpty

end SourceTable

end LiveRange
