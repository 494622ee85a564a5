import LiveRange.Text.Blank

/-! File paths: joining, and sameness up to repeated separators and needless dots. -/

namespace LiveRange

abbrev Path := Text

namespace Path

/-- A rooted name stands alone. Otherwise one separator parts it from the directory, unless the
directory is empty or already ends in one. -/
def join (directory name : Path) : Path :=
  if name.head? = some '/' ∨ directory = [] then name
  else if directory.getLast? = some '/' then directory ++ name
  else directory ++ '/' :: name

/-- What a path says once repeated separators and needless dots are left out. -/
structure Components where
  rooted : Bool
  names : List Text
  deriving DecidableEq, Repr

/-- Only a dot that opens an unrooted path is kept. -/
def components (path : Path) : Components :=
  let rooted := path.head? == some '/'
  let segments := path.splitOn '/'
  let names := segments.filter fun segment => segment ≠ [] ∧ segment ≠ ['.']
  { rooted, names := if segments.head? = some ['.'] then ['.'] :: names else names }

def Same (path other : Path) : Prop := path.components = other.components

instance (path other : Path) : Decidable (path.Same other) :=
  inferInstanceAs (Decidable (path.components = other.components))

end Path

end LiveRange
